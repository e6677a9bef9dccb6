/-
BlockConfig.Proofs.Session.Audit — the debug events of a run tell what became
of a storage.

The debug events of a run are its audit. Each accepted edit adds to it the one
event that names the full key, and a refused edit adds nothing. Locking a key
once more changes nothing, and adds nothing either. So the audit can be
carried out again on an empty storage, event by event, and what comes of it is
the storage that the run left (`Session.replay_run`). No event is refused on
the way, although each is checked like the edit that it tells of.

An event knows nothing of handles. That is why the scope has to be in its key,
and it is why runs may go through many handles at once, also through such that
were made on the way.

A merge writes many entries and adds one event, which counts them. It cannot
be carried out again from that, so `replay_run` is about runs that change the
storage by edits (`Session.RunEditsOnly`).
-/
import BlockConfig.Proofs.Session.Sharing
import BlockConfig.Proofs.Table.Lookup

namespace BlockConfig

/-! ## 1. Carrying events out -/

namespace Storage

/-- Do what an event says was done to a key. The events that are not about a
single key leave the storage as it is. -/
def apply (s : Storage) : Event → Except ConfigError Storage
  | .valueSet key value => s.set key value
  | .valueUnset key => (s.unset key).map Prod.snd
  | .keyLocked key => s.lock key
  | .merging .. | .copied .. | .viewed _ | .built .. => .ok s

/-- Carry events out one after another, as far as none is refused. -/
def replay (s : Storage) : List Event → Except ConfigError Storage
  | [] => .ok s
  | event :: rest => (s.apply event).bind fun next => next.replay rest

theorem replay_singleton (s : Storage) (event : Event) : s.replay [event] = s.apply event := by
  rw [replay]
  cases s.apply event <;> rfl

theorem replay_append (s : Storage) (before after : List Event) :
    s.replay (before ++ after) = (s.replay before).bind fun t => t.replay after := by
  induction before generalizing s with
  | nil => rfl
  | cons event rest ih =>
    rw [List.cons_append, replay, replay]
    cases s.apply event with
    | error e => rfl
    | ok next => exact ih next

/-- To lock what is locked is to do nothing. -/
theorem insert_locks_of_isLocked {s : Storage} {key : String} (h : s.isLocked key = true) :
    s.locks.insert key () = s.locks := by
  refine Table.ext_contains fun k => ?_
  rw [Table.contains_insert, Bool.or_eq_true, decide_eq_true_eq]
  constructor
  · rintro (rfl | hk)
    · exact h
    · exact hk
  · exact .inr

end Storage

/-! ## 2. What an edit reports -/

namespace Store

variable {s : Store} {e : Edit}

/-- What an accepted edit reports. -/
def report (s : Store) : Edit → List Event
  | .set key value => [.valueSet (s.qualify key) value]
  | .insert key value => [.valueSet (s.qualify key) value.render]
  | .unset key | .remove key => [.valueUnset (s.qualify key)]
  | .lock key => if s.isReadOnly key then [] else [.keyLocked (s.qualify key)]

/-- It is all for the log at the level of debugging. -/
theorem severity_of_mem_report {event : Event} (h : event ∈ s.report e) :
    event.severity = .debug := by
  cases e with
  | lock key =>
    rw [report] at h
    split at h
    · cases h
    · rw [List.mem_singleton.1 h]
      rfl
  | _ =>
    rw [List.mem_singleton.1 h]
    rfl

/-- A refused edit reports nothing. -/
theorem events_edit (s : Store) (e : Edit) :
    (s.edit e).events
      = match s.storage.edit s.scope e with
        | .error _ => []
        | .ok _ => s.report e := by
  cases e with
  | set key value | insert key value =>
    simp only [edit, insert, set, Storage.edit, report, qualify, Traced.onValue]
    split <;> simp [*, Except.map]
  | unset key | remove key =>
    simp only [edit, remove, unset, Storage.edit, report, qualify, Traced.onValue]
    cases s.storage.unset (s.scope ++ key) <;> rfl
  | lock key =>
    simp only [edit, lock, Storage.edit, report, qualify, Traced.onValue]
    cases s.storage.lock (s.scope ++ key) <;> rfl

/-- What an accepted edit reports is enough to carry it out again. -/
theorem replay_report {answer : Answer} {next : Storage}
    (h : s.storage.edit s.scope e = .ok (answer, next)) :
    s.storage.replay (s.report e) = .ok next := by
  cases e with
  | set key value | insert key value =>
    obtain ⟨t, hset, hp⟩ := map_eq_ok_iff.1 h
    cases hp
    exact (Storage.replay_singleton _ _).trans hset
  | unset key | remove key =>
    obtain ⟨⟨value, t⟩, hunset, hp⟩ := map_eq_ok_iff.1 h
    cases hp
    rw [report, Storage.replay_singleton, Storage.apply, qualify, hunset]
    rfl
  | lock key =>
    obtain ⟨t, hlock, hp⟩ := map_eq_ok_iff.1 h
    cases hp
    by_cases hl : s.isReadOnly key = true
    · obtain ⟨-, rfl⟩ := Storage.lock_eq_ok_iff.1 hlock
      have hlocks : s.storage.locks.insert (s.scope ++ key) () = s.storage.locks :=
        Storage.insert_locks_of_isLocked hl
      rw [report, if_pos hl, hlocks]
      rfl
    · rw [report, if_neg hl]
      exact (Storage.replay_singleton _ _).trans hlock

end Store

/-- A merge reports how many entries it writes, and below which scope. -/
theorem Store.events_merge (s given : Store) :
    (s.merge given).events
      = match s.storage.setAll (s.incoming given) with
        | .error _ => []
        | .ok _ => [.merging given.size s.scope] := by
  have hlength : (s.incoming given).length = given.size := List.length_map ..
  rw [merge, hlength]
  cases s.storage.setAll (s.incoming given) <;> rfl

/-! ## 3. Single calls -/

namespace Session

/-- The debug events of a run, in their order. -/
def audit (s : Session) (calls : List Call) : List Event :=
  (s.trail calls).filter (·.severity = .debug)

theorem audit_cons (s : Session) (call : Call) (rest : List Call) :
    s.audit (call :: rest) = s.audit [call] ++ (s.step call).session.audit rest := by
  simp [audit, trail]

theorem audit_singleton (s : Session) (call : Call) :
    s.audit [call] = (s.step call).events.filter (·.severity = .debug) := by
  simp [audit, trail]

variable {s : Session} {h : Nat} {store : Store}

theorem events_editing (hs : s.store? h = some store)
    (f : Store → Traced ConfigError (Answer × Store)) :
    (s.editing h f).events = (f store).events := by
  simp only [editing, hs]
  obtain ⟨events, result⟩ := f store
  cases result <;> rfl

/-- A call adds these events to the audit if it is accepted, and none if it is
refused. -/
structure Reports (s : Session) (call : Call) (events : List Event) : Prop where
  accepted : (∀ err, (s.step call).answer ≠ .failed err) → s.audit [call] = events
  refused : ∀ err, (s.step call).answer = .failed err → s.audit [call] = []

theorem Reports.of_accepted {call : Call} {events : List Event}
    (hanswer : ∀ err, (s.step call).answer ≠ .failed err) (haudit : s.audit [call] = events) :
    s.Reports call events :=
  ⟨fun _ => haudit, fun err hfailed => absurd hfailed (hanswer err)⟩

theorem Reports.of_refused {call : Call} {events : List Event} {err : ConfigError}
    (hanswer : (s.step call).answer = .failed err) (haudit : s.audit [call] = []) :
    s.Reports call events :=
  ⟨fun hok => absurd hanswer (hok err), fun _ _ => haudit⟩

theorem reports_edit (hs : s.store? h = some store) (e : Edit) :
    s.Reports (.edit h e) (store.report e) := by
  have hevents : (s.step (.edit h e)).events = (store.edit e).events := events_editing hs _
  cases he : store.storage.edit store.scope e with
  | error err =>
    refine .of_refused (step_edit_of_error hs he).2 ?_
    rw [audit_singleton, hevents, Store.events_edit, he]
    rfl
  | ok p =>
    have hanswer := (step_edit_of_ok hs he).2
    refine .of_accepted (hanswer ▸ (Storage.answer_of_edit he).ne_failed) ?_
    rw [audit_singleton, hevents, Store.events_edit, he]
    exact List.filter_eq_self.2 fun event hev => decide_eq_true (Store.severity_of_mem_report hev)

theorem reports_merge {source : Nat} {given : Store} (hs : s.store? h = some store)
    (hg : s.store? source = some given) :
    s.Reports (.merge h source) [.merging given.size store.scope] := by
  have hevents : (s.step (.merge h source)).events = (store.merge given).events := by
    rw [step_merge_of_some hg, events_editing hs]
    rfl
  cases hall : store.storage.setAll (store.incoming given) with
  | error err =>
    refine .of_refused (step_merge_of_error hs hg hall).2 ?_
    rw [audit_singleton, hevents, Store.events_merge, hall]
    rfl
  | ok next =>
    have hanswer := (step_merge_of_ok hs hg hall).2
    refine .of_accepted (fun err hfailed => nomatch hanswer.symm.trans hfailed) ?_
    rw [audit_singleton, hevents, Store.events_merge, hall]
    rfl

/-- What the calls through a handle add to the audit. -/
structure Audited (s : Session) (h : Nat) (store : Store) : Prop where
  set : ∀ key value, s.Reports (.edit h (.set key value)) [.valueSet (store.scope ++ key) value]
  insert : ∀ key value,
    s.Reports (.edit h (.insert key value)) [.valueSet (store.scope ++ key) value.render]
  unset : ∀ key, s.Reports (.edit h (.unset key)) [.valueUnset (store.scope ++ key)]
  remove : ∀ key, s.Reports (.edit h (.remove key)) [.valueUnset (store.scope ++ key)]
  /-- A key that is locked already is not told of again. -/
  lock : ∀ key, s.Reports (.edit h (.lock key))
    (if store.storage.isLocked (store.scope ++ key) then [] else [.keyLocked (store.scope ++ key)])
  /-- A merge adds one event, with the number of the entries that the source
  shows before it. -/
  merge : ∀ source n, (s.step (.ask source .size)).answer = .count n →
    s.Reports (.merge h source) [.merging n store.scope]

theorem audited (hs : s.store? h = some store) : s.Audited h store where
  set key value := reports_edit hs (.set key value)
  insert key value := reports_edit hs (.insert key value)
  unset key := reports_edit hs (.unset key)
  remove key := reports_edit hs (.remove key)
  lock key := reports_edit hs (.lock key)
  merge source n hn := by
    cases hg : s.store? source with
    | none => simp [step, asking, hg] at hn
    | some given =>
      obtain rfl : given.size = n := Answer.count.inj ((answer_ask hg .size).symm.trans hn)
      exact reports_merge hs hg

/-! ## 4. Runs -/

/-- The call changes no storage but `i`, and does not change many keys at
once. -/
def EditsOnly (s : Session) (i : Nat) : Call → Prop
  | .edit h _ => ∀ a ∈ s.handle? h, a.storage = i
  | .merge .. | .createFrom _ => False
  | _ => True

/-- All calls of a run do so. -/
def RunEditsOnly (s : Session) (i : Nat) : List Call → Prop
  | [] => True
  | call :: rest => s.EditsOnly i call ∧ (s.step call).session.RunEditsOnly i rest

instance (s : Session) (i : Nat) (call : Call) : Decidable (s.EditsOnly i call) :=
  match call with
  | .edit h _ => inferInstanceAs (Decidable (∀ a ∈ s.handle? h, a.storage = i))
  | .merge .. | .createFrom _ => inferInstanceAs (Decidable False)
  | .create | .subblock .. | .view .. | .snapshot _ | .shares .. | .release _ | .ask ..
  | .showsSame .. => inferInstanceAs (Decidable True)

instance decidableRunEditsOnly (s : Session) (i : Nat) :
    (calls : List Call) → Decidable (s.RunEditsOnly i calls)
  | [] => inferInstanceAs (Decidable True)
  | call :: rest =>
    have := decidableRunEditsOnly (s.step call).session i rest
    inferInstanceAs
      (Decidable (s.EditsOnly i call ∧ (s.step call).session.RunEditsOnly i rest))

/-- Questions, derivations and releases are no matter for the audit. -/
theorem audit_of_not_writer {i : Nat} {call : Call} (hc : s.EditsOnly i call)
    (hw : call.writer? = none) : s.audit [call] = [] := by
  rw [audit_singleton]
  cases call with
  | create | shares | release => rfl
  | createFrom => exact absurd hc id
  | edit | merge => cases hw
  | subblock g | snapshot g =>
    simp only [step, copy]
    cases s.store? g <;> rfl
  | view g =>
    simp only [step, view]
    cases s.handle? g <;> rfl
  | ask g =>
    simp only [step, asking]
    cases s.store? g <;> rfl
  | showsSame g other =>
    simp only [step, asking]
    cases s.store? other with
    | none => rfl
    | some shown => cases s.store? g <;> rfl

/-- An edit through a handle onto a storage adds to the audit what is enough
to make the same change again. -/
theorem replay_edit {i : Nat} {storage : Storage} (hi : s.storages[i]? = some storage)
    (hh : ∀ a ∈ s.handle? h, a.storage = i) (e : Edit) :
    ∃ next, (s.step (.edit h e)).session.storages[i]? = some next
      ∧ storage.replay (s.audit [.edit h e]) = .ok next := by
  cases hs : s.store? h with
  | none =>
    have hstep : s.step (.edit h e) = ⟨s, .noHandle, []⟩ := editing_of_none hs _
    rw [audit_singleton, hstep]
    exact ⟨storage, hi, rfl⟩
  | some store =>
    obtain ⟨j, hhandle, hj⟩ := store?_eq_some_iff.1 hs
    obtain rfl : j = i := hh _ hhandle
    obtain rfl : store.storage = storage := Option.some.inj (hj.symm.trans hi)
    have hreports := reports_edit hs e
    cases he : store.storage.edit store.scope e with
    | error err =>
      obtain ⟨hsession, hanswer⟩ := step_edit_of_error hs he
      rw [hsession, hreports.refused err hanswer]
      exact ⟨store.storage, hi, rfl⟩
    | ok p =>
      obtain ⟨hsession, hanswer⟩ := step_edit_of_ok hs he
      have haccepted : ∀ err, (s.step (.edit h e)).answer ≠ .failed err :=
        hanswer ▸ (Storage.answer_of_edit he).ne_failed
      rw [hsession, putBack_of_handle? hhandle, hreports.accepted haccepted]
      exact ⟨p.2, List.getElem?_set_self (List.getElem?_eq_some_iff.1 hi).1, Store.replay_report he⟩

theorem replay_step {i : Nat} {storage : Storage} (hi : s.storages[i]? = some storage)
    {call : Call} (hc : s.EditsOnly i call) :
    ∃ next, (s.step call).session.storages[i]? = some next
      ∧ storage.replay (s.audit [call]) = .ok next := by
  cases hw : call.writer? with
  | none =>
    rw [audit_of_not_writer hc hw]
    refine ⟨storage, (s.step_effect call).storage hi fun g _ hg => ?_, rfl⟩
    rw [hw] at hg
    cases hg
  | some g =>
    cases call with
    | edit n e => exact replay_edit hi hc e
    | merge => exact absurd hc id
    | _ => cases hw

theorem replay_run {i : Nat} {storage : Storage} (hi : s.storages[i]? = some storage)
    {calls : List Call} (hc : s.RunEditsOnly i calls) :
    ∃ last, (s.run calls).1.storages[i]? = some last
      ∧ storage.replay (s.audit calls) = .ok last := by
  induction calls generalizing s storage with
  | nil => exact ⟨storage, hi, rfl⟩
  | cons call rest ih =>
    obtain ⟨next, hnext, hstep⟩ := replay_step hi hc.1
    obtain ⟨last, hlast, hrest⟩ := ih hnext hc.2
    refine ⟨last, hlast, ?_⟩
    rw [audit_cons, Storage.replay_append, hstep]
    exact hrest

/-- Through every handle each accepted change adds its event to the audit, and
nothing else does. After any edits of a storage that was empty, through
handles with any scopes and with questions and derivations between them, the
audit can be carried out on an empty storage without a refusal, and gives the
entries and the locks that the storage has. -/
theorem audit_tells_storage (s : Session) :
    (∀ (h : Nat) (store : Store), s.store? h = some store → s.Audited h store)
    ∧ ∀ (i : Nat) (calls : List Call), s.storages[i]? = some {} → s.RunEditsOnly i calls →
        ∃ last, (s.run calls).1.storages[i]? = some last
          ∧ Storage.replay {} (s.audit calls) = .ok last :=
  ⟨fun _ _ hs => audited hs, fun _ _ hi hc => replay_run hi hc⟩

/-- Edits through the whole, through a view, and through a view of that which
is made on the way. Two of them are refused, and a lock is asked for twice.
The storage is merged into another one after that. -/
theorem audit_through_views :
    let s := (run {} [.create, .view 0 "a", .createFrom [("p", "0")]]).1
    let calls : List Call := [.edit 0 (.set "a:b" "1"), .edit 1 (.lock "b"), .edit 0 (.unset "a:b"),
      .view 1 "c", .edit 3 (.insert "d" (.flag true)), .edit 0 (.lock "a:b"), .edit 3 (.set "" "2"),
      .edit 1 (.remove "c:d"), .ask 1 .keys]
    let last := (s.run calls).1
    s.storages[0]? = some ({} : Storage) ∧ s.RunEditsOnly 0 calls
      ∧ (∃ storage, last.storages[0]? = some storage
          ∧ Storage.replay {} (s.audit calls) = .ok storage)
      ∧ s.audit calls = [.valueSet "a:b" "1", .keyLocked "a:b", .valueSet "a:c:d" "true",
          .valueUnset "a:c:d"]
      ∧ last.audit [.merge 2 1] = [.merging 1 ""] := by
  intro s calls last
  have hempty : s.storages[0]? = some ({} : Storage) := by decide
  have hedits : s.RunEditsOnly 0 calls := by decide
  obtain ⟨-, hreplay⟩ := audit_tells_storage s
  refine ⟨hempty, hedits, hreplay 0 calls hempty hedits, by decide, ?_⟩
  obtain ⟨haudited, -⟩ := audit_tells_storage last
  have htarget : last.store? 2 = some { storage.entries := Table.ofList [("p", "0")] } := by decide
  have hmerged : (last.step (.merge 2 1)).answer = .done := by decide
  have hreports := (haudited 2 _ htarget).merge 1 1 (by decide)
  exact hreports.accepted fun err hfailed => nomatch hmerged.symm.trans hfailed

end Session

end BlockConfig
