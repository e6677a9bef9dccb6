/-
BlockConfig.Proofs.Session.Moves — what a call can leave of a session.

A session changes in few ways, whatever was called: a storage is added, a
handle is added or released, or the storage behind one handle is replaced
by the outcome of one accepted change. `Effect` lists them with the calls
and answers that they belong to, and `step_effect` says that there are no
others. `Moves` is the same list without calls and answers. An invariant
of all runs is proved by going through it once (`run_preserves`).

Events are no part of what a session holds. So the operations are first
restated without them: `Storage.edit` and `Storage.setAll` say what is
written, and `Store.result_edit` and `Store.result_merge` say that the
store below a scope does just that to its storage.

Nothing here asks whether names or keys are well formed.
-/
import BlockConfig.Session
import BlockConfig.Store.Lemmas

namespace BlockConfig

/-! ## 1. Changes without their events -/

/-- What an edit through a scope does to a storage. -/
def Storage.edit (s : Storage) (scope : String) : Edit → Except ConfigError (Answer × Storage)
  | .set key value => (s.set (scope ++ key) value).map fun t => (.done, t)
  | .insert key value => (s.set (scope ++ key) value.render).map fun t => (.done, t)
  | .unset key | .remove key => (s.unset (scope ++ key)).map fun p => (.text p.1, p.2)
  | .lock key => (s.lock (scope ++ key)).map fun t => (.done, t)

/-- One accepted change of a storage. -/
inductive Storage.Change (s : Storage) : Storage → Prop
  | set {key value : String} {t : Storage} (h : s.set key value = .ok t) : Change s t
  | unset {key value : String} {t : Storage} (h : s.unset key = .ok (value, t)) : Change s t
  | lock {key : String} {t : Storage} (h : s.lock key = .ok t) : Change s t
  | setAll {pairs : List (String × String)} {t : Storage} (h : s.setAll pairs = .ok t) :
      Change s t

theorem Storage.change_of_edit {s t : Storage} {scope : String} {e : Edit} {answer : Answer}
    (h : s.edit scope e = .ok (answer, t)) : s.Change t := by
  cases e with
  | set key value | insert key value =>
    obtain ⟨u, hu, hp⟩ := map_eq_ok_iff.1 h
    obtain rfl : u = t := congrArg Prod.snd hp
    exact .set hu
  | unset key | remove key =>
    obtain ⟨⟨value, u⟩, hu, hp⟩ := map_eq_ok_iff.1 h
    obtain rfl : u = t := congrArg Prod.snd hp
    exact .unset hu
  | lock key =>
    obtain ⟨u, hu, hp⟩ := map_eq_ok_iff.1 h
    obtain rfl : u = t := congrArg Prod.snd hp
    exact .lock hu

/-- An answer that is neither an error nor a handle. -/
def Answer.Plain : Answer → Prop
  | .failed _ | .handle _ => False
  | _ => True

theorem Answer.Plain.ne_failed {answer : Answer} (h : answer.Plain) (e : ConfigError) :
    answer ≠ .failed e := by
  rintro rfl
  exact h

theorem Answer.Plain.ne_handle {answer : Answer} (h : answer.Plain) (n : Nat) :
    answer ≠ .handle n := by
  rintro rfl
  exact h

/-- An accepted edit has nothing to say, or gives back the value that it
took away. -/
theorem Storage.answer_of_edit {s t : Storage} {scope : String} {e : Edit} {answer : Answer}
    (h : s.edit scope e = .ok (answer, t)) : answer.Plain := by
  cases e with
  | set key value | insert key value | lock key =>
    obtain ⟨u, -, hp⟩ := map_eq_ok_iff.1 h
    obtain rfl : .done = answer := congrArg Prod.fst hp
    trivial
  | unset key | remove key =>
    obtain ⟨⟨value, u⟩, -, hp⟩ := map_eq_ok_iff.1 h
    obtain rfl : .text value = answer := congrArg Prod.fst hp
    trivial

namespace Store

/-- No question is answered with a handle. -/
theorem answer_ne_handle (s : Store) (q : Query) (n : Nat) : s.answer q ≠ .handle n := by
  cases q with
  | get key =>
    rw [answer]
    cases s.get key <;> intro hn <;> cases hn
  | _ => intro hn; cases hn

/-- An edit through a store is the edit of its storage through its scope. -/
theorem result_edit (s : Store) (e : Edit) :
    (s.edit e).result
      = (s.storage.edit s.scope e).map fun p => (p.1, { s with storage := p.2 }) := by
  cases e with
  | set key value =>
    simp only [edit, Storage.edit, Traced.onValue, result_set]
    cases s.storage.set (s.scope ++ key) value <;> rfl
  | insert key value =>
    simp only [edit, Storage.edit, Traced.onValue, insert, result_set]
    cases s.storage.set (s.scope ++ key) value.render <;> rfl
  | unset key =>
    simp only [edit, Storage.edit, Traced.onValue, result_unset]
    cases s.storage.unset (s.scope ++ key) <;> rfl
  | remove key =>
    simp only [edit, Storage.edit, Traced.onValue, remove, result_unset]
    cases s.storage.unset (s.scope ++ key) <;> rfl
  | lock key =>
    simp only [edit, Storage.edit, Traced.onValue, result_lock]
    cases s.storage.lock (s.scope ++ key) <;> rfl

/-- What an edit leaves when it is accepted. -/
theorem outcome_of_edit {s next : Store} {e : Edit} {answer : Answer}
    (h : (s.edit e).result = .ok (answer, next)) :
    answer.Plain ∧ s.storage.Change next.storage := by
  rw [result_edit] at h
  obtain ⟨p, he, hp⟩ := map_eq_ok_iff.1 h
  cases hp
  exact ⟨Storage.answer_of_edit he, Storage.change_of_edit he⟩

/-- What a merge leaves when it is accepted. -/
theorem outcome_of_merge {s given next : Store} {answer : Answer}
    (h : ((s.merge given).onValue fun t => (Answer.done, t)).result = .ok (answer, next)) :
    answer.Plain ∧ s.storage.Change next.storage := by
  rw [Traced.onValue, result_merge] at h
  obtain ⟨t, ht, hp⟩ := map_eq_ok_iff.1 h
  obtain ⟨storage, hset, rfl⟩ := map_eq_ok_iff.1 ht
  cases hp
  exact ⟨trivial, .setAll hset⟩

/-- What was set one after another was changed one by one, and the scope
is the same as before. -/
theorem setEach_induction {P : Storage → Prop} (hP : ∀ s t : Storage, P s → s.Change t → P t)
    {pairs : List (String × String)} {s t : Store} (h : (s.setEach pairs).result = .ok t)
    (hs : P s.storage) : P t.storage ∧ t.scope = s.scope := by
  induction pairs generalizing s with
  | nil =>
    obtain rfl : s = t := by simpa [setEach] using h
    exact ⟨hs, rfl⟩
  | cons pair rest ih =>
    rw [setEach, Traced.bind_eq] at h
    cases hset : (s.set pair.1 pair.2).result with
    | error e =>
      rw [Traced.andThen_of_error hset] at h
      exact absurd h (by simp)
    | ok next =>
      rw [Traced.andThen_of_ok hset] at h
      rw [result_set] at hset
      obtain ⟨u, hu, rfl⟩ := map_eq_ok_iff.1 hset
      exact ih (s := { s with storage := u }) h (hP s.storage u hs (.set hu))

end Store

/-! ## 2. Handles and the stores they look at -/

namespace Session

theorem store?_eq_some_iff {s : Session} {h : Nat} {store : Store} :
    s.store? h = some store ↔
      ∃ i, s.handle? h = some ⟨i, store.scope⟩ ∧ s.storages[i]? = some store.storage := by
  unfold store?
  cases hh : s.handle? h with
  | none => simp
  | some handle =>
    obtain ⟨i, scope⟩ := handle
    obtain ⟨storage, scope'⟩ := store
    simp only [Option.map_eq_some_iff, Store.mk.injEq, Option.some.injEq, Handle.mk.injEq]
    constructor
    · rintro ⟨t, ht, rfl, rfl⟩
      exact ⟨i, ⟨rfl, rfl⟩, ht⟩
    · rintro ⟨j, ⟨rfl, rfl⟩, ht⟩
      exact ⟨storage, ht, rfl, rfl⟩

theorem store?_of_handle? {s : Session} {h i : Nat} {scope : String} {storage : Storage}
    (hh : s.handle? h = some ⟨i, scope⟩) (hs : s.storages[i]? = some storage) :
    s.store? h = some ⟨storage, scope⟩ :=
  store?_eq_some_iff.2 ⟨i, hh, hs⟩

theorem putBack_of_handle? {s : Session} {h i : Nat} {scope : String}
    (hh : s.handle? h = some ⟨i, scope⟩) (storage : Storage) :
    s.putBack h storage = { s with storages := s.storages.set i storage } := by
  simp [putBack, hh]

/-! ### Changing what a handle looks at -/

/-- A question is answered by the store that the handle looks at. -/
theorem step_ask {s : Session} {h : Nat} {store : Store} (hs : s.store? h = some store)
    (q : Query) : s.step (.ask h q) = ⟨s, store.answer q, []⟩ := by
  simp only [step, asking, hs]

theorem answer_ask {s : Session} {h : Nat} {store : Store} (hs : s.store? h = some store)
    (q : Query) : (s.step (.ask h q)).answer = store.answer q := by
  rw [step_ask hs]

theorem editing_of_none {s : Session} {h : Nat} (hs : s.store? h = none)
    (f : Store → Traced ConfigError (Answer × Store)) : s.editing h f = ⟨s, .noHandle, []⟩ := by
  simp [editing, hs]

theorem editing_of_error {s : Session} {h : Nat} {store : Store} (hs : s.store? h = some store)
    {f : Store → Traced ConfigError (Answer × Store)} {e : ConfigError}
    (hf : (f store).result = .error e) :
    s.editing h f = ⟨s, .failed e, (f store).events⟩ := by
  simp only [editing, hs]
  cases hfs : f store with
  | mk events result =>
    obtain rfl : result = .error e := by simpa [hfs] using hf
    rfl

theorem editing_of_ok {s : Session} {h : Nat} {store : Store} (hs : s.store? h = some store)
    {f : Store → Traced ConfigError (Answer × Store)} {answer : Answer} {next : Store}
    (hf : (f store).result = .ok (answer, next)) :
    s.editing h f = ⟨s.putBack h next.storage, answer, (f store).events⟩ := by
  simp only [editing, hs]
  cases hfs : f store with
  | mk events result =>
    obtain rfl : result = .ok (answer, next) := by simpa [hfs] using hf
    rfl

/-- All that can come of changing what a handle looks at. -/
theorem editing_cases (s : Session) (h : Nat)
    (f : Store → Traced ConfigError (Answer × Store)) :
    s.store? h = none ∧ s.editing h f = ⟨s, .noHandle, []⟩
      ∨ (∃ store e, s.store? h = some store ∧ (f store).result = .error e
          ∧ s.editing h f = ⟨s, .failed e, (f store).events⟩)
      ∨ ∃ store answer next, s.store? h = some store ∧ (f store).result = .ok (answer, next)
          ∧ s.editing h f = ⟨s.putBack h next.storage, answer, (f store).events⟩ := by
  cases hs : s.store? h with
  | none => exact .inl ⟨rfl, editing_of_none hs f⟩
  | some store =>
    cases hf : (f store).result with
    | error e => exact .inr (.inl ⟨store, e, rfl, hf, editing_of_error hs hf⟩)
    | ok p => exact .inr (.inr ⟨store, p.1, p.2, rfl, hf, editing_of_ok hs hf⟩)

/-- A refused edit: the error is the answer, and the session stays. -/
theorem step_edit_of_error {s : Session} {h : Nat} {store : Store}
    (hs : s.store? h = some store) {e : Edit} {err : ConfigError}
    (he : store.storage.edit store.scope e = .error err) :
    (s.step (.edit h e)).session = s ∧ (s.step (.edit h e)).answer = .failed err := by
  have hf : (store.edit e).result = .error err := by
    rw [Store.result_edit, he]
    rfl
  rw [step, editing_of_error hs hf]
  exact ⟨rfl, rfl⟩

/-- An accepted edit: the changed storage is put back. -/
theorem step_edit_of_ok {s : Session} {h : Nat} {store : Store}
    (hs : s.store? h = some store) {e : Edit} {answer : Answer} {next : Storage}
    (he : store.storage.edit store.scope e = .ok (answer, next)) :
    (s.step (.edit h e)).session = s.putBack h next
      ∧ (s.step (.edit h e)).answer = answer := by
  have hf : (store.edit e).result = .ok (answer, { store with storage := next }) := by
    rw [Store.result_edit, he]
    rfl
  rw [step, editing_of_ok hs hf]
  exact ⟨rfl, rfl⟩

theorem step_merge_of_none {s : Session} {source : Nat} (hg : s.store? source = none) (h : Nat) :
    s.step (.merge h source) = ⟨s, .noHandle, []⟩ := by
  rw [step, hg]

/-- A merge changes one store by what another handle shows. -/
theorem step_merge_of_some {s : Session} {source : Nat} {given : Store}
    (hg : s.store? source = some given) (h : Nat) :
    s.step (.merge h source)
      = s.editing h fun store => (store.merge given).onValue fun next => (.done, next) := by
  rw [step, hg]

theorem step_merge_of_error {s : Session} {h source : Nat} {store given : Store}
    (hs : s.store? h = some store) (hg : s.store? source = some given) {err : ConfigError}
    (he : store.storage.setAll (store.incoming given) = .error err) :
    (s.step (.merge h source)).session = s
      ∧ (s.step (.merge h source)).answer = .failed err := by
  have hf : ((store.merge given).onValue fun next => (Answer.done, next)).result
      = .error err := by
    rw [Traced.onValue, Store.result_merge, he]
    rfl
  rw [step_merge_of_some hg, editing_of_error hs hf]
  exact ⟨rfl, rfl⟩

theorem step_merge_of_ok {s : Session} {h source : Nat} {store given : Store}
    (hs : s.store? h = some store) (hg : s.store? source = some given) {next : Storage}
    (he : store.storage.setAll (store.incoming given) = .ok next) :
    (s.step (.merge h source)).session = s.putBack h next
      ∧ (s.step (.merge h source)).answer = .done := by
  have hf : ((store.merge given).onValue fun next => (Answer.done, next)).result
      = .ok (.done, { store with storage := next }) := by
    rw [Traced.onValue, Store.result_merge, he]
    rfl
  rw [step_merge_of_some hg, editing_of_ok hs hf]
  exact ⟨rfl, rfl⟩

end Session

/-! ## 3. Effects and moves -/

/-- The handle that a call writes through. -/
def Call.writer? : Call → Option Nat
  | .edit h _ | .merge h _ => some h
  | _ => none

/-- The calls that give a storage of its own to a new handle. -/
def Call.Founds : Call → Prop
  | .create | .createFrom _ | .subblock .. | .snapshot _ => True
  | _ => False

namespace Session

/-- The stores that a call can put into a session as new ones. -/
inductive Offers (s : Session) : Store → Prop
  /-- Built from pairs. -/
  | built (pairs : List (String × String)) {store : Store}
      (h : (Store.ofEntries pairs).result = .ok store) : Offers s store
  /-- Copied from what a handle looks at. -/
  | copied {h : Nat} {store : Store} (name : String) (hs : s.store? h = some store) :
      Offers s (store.subblock name)

/-- What a call does to a session, beside its answer. Only a call that adds
a handle answers with one. -/
inductive Effect (s : Session) : Call → Answer → Session → Prop
  | stay {call : Call} {answer : Answer} (ha : ∀ n, answer ≠ .handle n) : Effect s call answer s
  | adopt {call : Call} {store : Store} (hc : call.Founds) (ho : s.Offers store) :
      Effect s call (.handle s.nextHandle) (s.adopt store)
  | attach {h : Nat} {handle : Handle} (name : String) (hh : s.handle? h = some handle) :
      Effect s (.view h name) (.handle s.nextHandle) (s.attach (handle.view name))
  | write {call : Call} {answer : Answer} {h i : Nat} {scope : String} {storage next : Storage}
      (ha : ∀ n, answer ≠ .handle n) (hw : call.writer? = some h)
      (hh : s.handle? h = some ⟨i, scope⟩) (hs : s.storages[i]? = some storage)
      (hc : storage.Change next) :
      Effect s call answer { s with storages := s.storages.set i next }
  | release (h : Nat) : Effect s (.release h) .done (s.release h)

/-- What one call can leave of a session. -/
inductive Moves (s : Session) : Session → Prop
  | stay : Moves s s
  | adopt {store : Store} (h : s.Offers store) : Moves s (s.adopt store)
  | attach {h : Nat} {handle : Handle} (name : String) (hh : s.handle? h = some handle) :
      Moves s (s.attach (handle.view name))
  | write {h i : Nat} {scope : String} {storage next : Storage}
      (hh : s.handle? h = some ⟨i, scope⟩) (hs : s.storages[i]? = some storage)
      (hc : storage.Change next) : Moves s { s with storages := s.storages.set i next }
  | release (h : Nat) : Moves s (s.release h)

theorem Effect.moves {s t : Session} {call : Call} {answer : Answer}
    (h : s.Effect call answer t) : s.Moves t := by
  cases h with
  | stay => exact .stay
  | adopt _ ho => exact .adopt ho
  | attach name hh => exact .attach name hh
  | write _ _ hh hs hc => exact .write hh hs hc
  | release h => exact .release h

theorem effect_asking (s : Session) (call : Call) (h : Nat) {f : Store → Answer}
    (hf : ∀ store n, f store ≠ .handle n) :
    s.Effect call (s.asking h f).answer (s.asking h f).session := by
  unfold asking
  cases s.store? h with
  | none => exact .stay fun n hn => by cases hn
  | some store => exact .stay (hf store)

theorem effect_copy (s : Session) (call : Call) (hc : call.Founds) (h : Nat) (name : String) :
    s.Effect call (s.copy h name).answer (s.copy h name).session := by
  unfold copy
  cases hs : s.store? h with
  | none => exact .stay fun n hn => by cases hn
  | some store => exact .adopt hc (.copied name hs)

theorem effect_editing (s : Session) (call : Call) (h : Nat) (hw : call.writer? = some h)
    {f : Store → Traced ConfigError (Answer × Store)}
    (hf : ∀ store answer next, (f store).result = .ok (answer, next) →
      answer.Plain ∧ store.storage.Change next.storage) :
    s.Effect call (s.editing h f).answer (s.editing h f).session := by
  rcases s.editing_cases h f with ⟨-, heq⟩ | ⟨store, e, -, -, heq⟩
    | ⟨store, answer, next, hs, hok, heq⟩
  · rw [heq]
    exact .stay fun n hn => by cases hn
  · rw [heq]
    exact .stay fun n hn => by cases hn
  · rw [heq]
    obtain ⟨hplain, hchange⟩ := hf store answer next hok
    obtain ⟨i, hh, hi⟩ := store?_eq_some_iff.1 hs
    rw [putBack_of_handle? hh]
    exact .write hplain.ne_handle hw hh hi hchange

/-- Every call has one of the effects. -/
theorem step_effect (s : Session) (call : Call) :
    s.Effect call (s.step call).answer (s.step call).session := by
  cases call with
  | create => exact .adopt trivial (.built [] rfl)
  | createFrom pairs =>
    simp only [step]
    cases hb : Store.ofEntries pairs with
    | mk events result =>
      cases result with
      | error e => exact .stay fun n hn => by cases hn
      | ok store => exact .adopt trivial (.built pairs (by rw [hb]))
  | subblock h name => exact s.effect_copy (.subblock h name) trivial h name
  | snapshot h => exact s.effect_copy (.snapshot h) trivial h ""
  | view h name =>
    simp only [step, view]
    cases hh : s.handle? h with
    | none => exact .stay fun n hn => by cases hn
    | some handle => exact .attach name hh
  | edit h e => exact s.effect_editing _ h rfl fun _ _ _ hok => Store.outcome_of_edit hok
  | merge h source =>
    cases hg : s.store? source with
    | none =>
      rw [step_merge_of_none hg]
      exact .stay fun n hn => by cases hn
    | some given =>
      rw [step_merge_of_some hg]
      exact s.effect_editing _ h rfl fun _ _ _ hok => Store.outcome_of_merge hok
  | ask h q => exact s.effect_asking _ h fun store => store.answer_ne_handle q
  | showsSame h other =>
    simp only [step]
    cases s.store? other with
    | none => exact .stay fun n hn => by cases hn
    | some shown => exact s.effect_asking _ h fun _ _ hn => by cases hn
  | shares h other => exact .stay fun n hn => by cases hn
  | release h => exact .release h

/-- Whatever is called, the session makes one of the moves. -/
theorem step_moves (s : Session) (call : Call) : s.Moves (s.step call).session :=
  (s.step_effect call).moves

/-! ## 4. Runs -/

/-- The sessions that calls can lead to from an empty one. -/
def Reachable (s : Session) : Prop := ∃ calls : List Call, (Session.run {} calls).1 = s

/-- What every move keeps, a run keeps. -/
theorem run_preserves {P : Session → Prop} (hP : ∀ s t : Session, P s → s.Moves t → P t)
    (calls : List Call) {s : Session} (h : P s) : P (s.run calls).1 := by
  induction calls generalizing s with
  | nil => exact h
  | cons call rest ih => exact ih (hP s _ h (s.step_moves call))

theorem run_append (s : Session) (before after : List Call) :
    s.run (before ++ after)
      = (((s.run before).1.run after).1, (s.run before).2 ++ ((s.run before).1.run after).2) := by
  induction before generalizing s with
  | nil => rfl
  | cons call rest ih => simp only [List.cons_append, run, ih]

theorem Reachable.run {s : Session} (h : s.Reachable) (calls : List Call) :
    (s.run calls).1.Reachable := by
  obtain ⟨before, rfl⟩ := h
  exact ⟨before ++ calls, by rw [run_append]⟩

/-- An invariant of the empty session that every move keeps holds of all
reachable sessions. -/
theorem Reachable.induction {P : Session → Prop} (h0 : P {})
    (hP : ∀ s t : Session, P s → s.Moves t → P t) {s : Session} (h : s.Reachable) : P s := by
  obtain ⟨calls, rfl⟩ := h
  exact run_preserves hP calls h0

end Session

end BlockConfig
