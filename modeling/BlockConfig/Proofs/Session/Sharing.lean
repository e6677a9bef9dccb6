/-
BlockConfig.Proofs.Session.Sharing — which handles share a storage, and
what a call through one handle means for another.

Two handles share a storage exactly when views connect them: one was made
as a view of the other, or both of a third one, and so on, in either
direction, whichever of the handles in between are still there
(`Isolated.shares_iff`). A view is read off the history (`ViewOf`): it is
the call and the number that it was answered with. Every other way to a
handle begins a storage of its own (`Isolated.founds`). What is made of a
handle that is there is always made (`Isolated.derived`).

From this two things follow for a handle `h`. A call that does not write
through a handle sharing with `h` leaves everything that `h` shows as it is
(`Isolated.untouched`). And a value set or taken away through a handle that
does share with `h` is seen at the same full key at once, and nowhere else
(`Isolated.seen`).

What carries the first part is `Homes`: every handle number that was ever
given out has the number of a storage, its home, and keeps it when the
handle is released. Calls only add homes, a new storage is the home of
nothing else, and two numbers with one home are connected by views.
-/
import Mathlib.Logic.Relation
import BlockConfig.Proofs.Session.History

namespace BlockConfig

/-! ## 1. Handles and storages after a call -/

namespace Session

theorem lt_nextHandle {s : Session} {h : Nat} {a : Handle} (hh : s.handle? h = some a) :
    h < s.nextHandle :=
  (List.getElem?_eq_some_iff.1 (Option.join_eq_some_iff.1 hh)).1

theorem handle?_nextHandle (s : Session) : s.handle? s.nextHandle = none := by
  simp [handle?, nextHandle]

@[simp] theorem nextHandle_attach (s : Session) (new : Handle) :
    (s.attach new).nextHandle = s.nextHandle + 1 := by
  simp [attach, nextHandle]

@[simp] theorem nextHandle_adopt (s : Session) (store : Store) :
    (s.adopt store).nextHandle = s.nextHandle + 1 := by
  simp [adopt, nextHandle]

@[simp] theorem nextHandle_release (s : Session) (h : Nat) :
    (s.release h).nextHandle = s.nextHandle := by
  simp [release, nextHandle]

theorem handle?_attach (s : Session) (new : Handle) (h : Nat) :
    (s.attach new).handle? h = if h = s.nextHandle then some new else s.handle? h := by
  unfold handle? attach nextHandle
  by_cases hh : h = s.handles.length
  · simp [hh]
  · rw [if_neg hh]
    rcases Nat.lt_or_gt_of_ne hh with hlt | hgt
    · rw [List.getElem?_append_left hlt]
    · rw [List.getElem?_eq_none (by simp; omega), List.getElem?_eq_none (by omega)]

theorem handle?_adopt (s : Session) (store : Store) (h : Nat) :
    (s.adopt store).handle? h
      = if h = s.nextHandle then some ⟨s.storages.length, store.scope⟩ else s.handle? h :=
  s.handle?_attach _ h

theorem handle?_attach_nextHandle (s : Session) (new : Handle) :
    (s.attach new).handle? s.nextHandle = some new := by
  rw [handle?_attach, if_pos rfl]

/-- New handles do not touch those that are there. -/
theorem handle?_attach_of_some {s : Session} {h : Nat} {a : Handle} (hh : s.handle? h = some a)
    (new : Handle) : (s.attach new).handle? h = some a := by
  rw [handle?_attach, if_neg (Nat.ne_of_lt (lt_nextHandle hh)), hh]

theorem handle?_adopt_of_some {s : Session} {h : Nat} {a : Handle} (hh : s.handle? h = some a)
    (new : Store) : (s.adopt new).handle? h = some a :=
  handle?_attach_of_some hh _

/-- The new handle looks at the whole of what was put in. -/
theorem store?_adopt (s : Session) (store : Store) :
    (s.adopt store).store? s.nextHandle = some store :=
  store?_of_handle? (s.handle?_attach_nextHandle _) List.getElem?_concat_length

theorem store?_adopt_of_some {s : Session} {h : Nat} {store : Store}
    (hs : s.store? h = some store) (new : Store) : (s.adopt new).store? h = some store := by
  obtain ⟨i, hh, hi⟩ := store?_eq_some_iff.1 hs
  refine store?_of_handle? (handle?_adopt_of_some hh new) ?_
  rw [adopt, List.getElem?_append_left (List.getElem?_eq_some_iff.1 hi).1, hi]

theorem store?_attach_of_some {s : Session} {h : Nat} {store : Store}
    (hs : s.store? h = some store) (new : Handle) : (s.attach new).store? h = some store := by
  obtain ⟨i, hh, hi⟩ := store?_eq_some_iff.1 hs
  exact store?_of_handle? (handle?_attach_of_some hh new) hi

/-- The view of a block looks at the view of the store. -/
theorem store?_attach_view {s : Session} {h : Nat} {a : Handle} {store : Store}
    (hh : s.handle? h = some a) (hs : s.store? h = some store) (name : String) :
    (s.attach (a.view name)).store? s.nextHandle = some (store.view name) := by
  obtain ⟨i, hh', hi⟩ := store?_eq_some_iff.1 hs
  obtain rfl := Option.some.inj (hh.symm.trans hh')
  exact store?_of_handle? (handle?_attach_nextHandle ..) hi

theorem handle?_release (s : Session) (g h : Nat) :
    (s.release g).handle? h = if h = g then none else s.handle? h := by
  unfold handle? release
  by_cases hh : h = g
  · subst hh
    rw [if_pos rfl, List.getElem?_set]
    by_cases hlt : h < s.handles.length <;> simp [hlt]
  · rw [if_neg hh, List.getElem?_set_ne (Ne.symm hh)]

theorem shares_eq_true_iff {s : Session} {g h : Nat} {a b : Handle} (hg : s.handle? g = some a)
    (hh : s.handle? h = some b) : s.shares g h = true ↔ a.storage = b.storage := by
  simp [shares, hg, hh]

theorem view_of_handle? {s : Session} {h : Nat} {a : Handle} (hh : s.handle? h = some a)
    (name : String) : s.view h name
      = ⟨s.attach (a.view name), .handle s.nextHandle, [.viewed (a.view name).scope]⟩ := by
  rw [view, hh]

theorem copy_of_store? {s : Session} {h : Nat} {store : Store} (hs : s.store? h = some store)
    (name : String) : s.copy h name
      = ⟨s.adopt (store.subblock name), .handle s.nextHandle, [store.subblockEvent name]⟩ := by
  rw [copy, hs]

/-- What was put back through one handle is not seen through a handle onto
another storage. -/
theorem store?_putBack_of_ne {s : Session} {g h : Nat} {a b : Handle}
    (hg : s.handle? g = some a) (hh : s.handle? h = some b) (hne : a.storage ≠ b.storage)
    (next : Storage) : (s.putBack g next).store? h = s.store? h := by
  have hh' : handle? { s with storages := s.storages.set a.storage next } h = some b := hh
  rw [putBack_of_handle? hg, store?, store?, hh, hh']
  simp only [List.getElem?_set_ne hne]

namespace Effect

variable {s t : Session} {call : Call} {answer : Answer}

/-- A handle stays what it is until it is released. -/
theorem handle? (he : s.Effect call answer t) {h : Nat} {a : Handle}
    (hh : s.handle? h = some a) (hr : call ≠ .release h) : t.handle? h = some a := by
  cases he with
  | stay => exact hh
  | adopt _ _ => exact handle?_adopt_of_some hh _
  | attach name _ => exact handle?_attach_of_some hh _
  | write => exact hh
  | release g =>
    have hg : h ≠ g := fun heq => hr (by rw [heq])
    rw [handle?_release, if_neg hg, hh]

/-- A storage stays what it is unless the call writes to it. -/
theorem storage (he : s.Effect call answer t) {i : Nat} {storage : Storage}
    (hi : s.storages[i]? = some storage)
    (hw : ∀ g a, call.writer? = some g → s.handle? g = some a → a.storage ≠ i) :
    t.storages[i]? = some storage := by
  cases he with
  | stay | attach | release => exact hi
  | adopt _ _ =>
    rw [Session.adopt, List.getElem?_append_left (List.getElem?_eq_some_iff.1 hi).1, hi]
  | write _ hcall hh _ _ => rw [List.getElem?_set_ne (hw _ _ hcall hh), hi]

/-- What a handle looks at stays what it is unless the call writes through
a handle that shares the storage. -/
theorem store? (he : s.Effect call answer t) {h : Nat} {store : Store}
    (hs : s.store? h = some store) (hr : call ≠ .release h)
    (hw : ∀ g, call.writer? = some g → s.shares g h = false) : t.store? h = some store := by
  obtain ⟨i, hh, hi⟩ := store?_eq_some_iff.1 hs
  refine store?_eq_some_iff.2 ⟨i, he.handle? hh hr, he.storage hi fun g a hg ha heq => ?_⟩
  have hno := hw g hg
  rw [(shares_eq_true_iff ha hh).2 heq] at hno
  cases hno

end Effect

end Session

/-! ## 2. Views in a history -/

/-- The handle `n` was made as a view of what `h` looks at. -/
def ViewOf (past : List (Call × Answer)) (h n : Nat) : Prop :=
  ∃ name, (Call.view h name, Answer.handle n) ∈ past

theorem viewOf_append {past : List (Call × Answer)} {call : Call} {answer : Answer} {h n : Nat} :
    ViewOf (past ++ [(call, answer)]) h n
      ↔ ViewOf past h n ∨ ∃ name, call = .view h name ∧ answer = .handle n := by
  simp [ViewOf, exists_or, eq_comm]

theorem viewOf_append_of_ne {past : List (Call × Answer)} {call : Call} {answer : Answer}
    (ha : ∀ n, answer ≠ .handle n) : ViewOf (past ++ [(call, answer)]) = ViewOf past := by
  funext h n
  rw [viewOf_append, eq_iff_iff]
  exact or_iff_left fun ⟨_, _, hn⟩ => ha n hn

theorem viewOf_append_of_founds {past : List (Call × Answer)} {call : Call} {answer : Answer}
    (hc : call.Founds) : ViewOf (past ++ [(call, answer)]) = ViewOf past := by
  funext h n
  rw [viewOf_append, eq_iff_iff]
  refine or_iff_left fun ⟨name, hview, _⟩ => ?_
  rw [hview] at hc
  exact hc

/-! ## 3. Homes -/

namespace Session

/-- The storages of all handle numbers that were given out so far. -/
structure Homes (s : Session) (past : List (Call × Answer)) (homes : List Nat) : Prop where
  length : homes.length = s.nextHandle
  alive : ∀ h a, s.handle? h = some a → homes[h]? = some a.storage
  bound : ∀ i ∈ homes, i < s.storages.length
  /-- A view has the home of what it is a view of. -/
  views : ∀ h n, ViewOf past h n → ∃ i, homes[h]? = some i ∧ homes[n]? = some i
  /-- Numbers with one home are connected by views. -/
  linked : ∀ h n i, homes[h]? = some i → homes[n]? = some i → Relation.EqvGen (ViewOf past) h n

namespace Homes

variable {s t : Session} {past later : List (Call × Answer)} {homes : List Nat}

theorem empty : Homes {} [] [] where
  length := rfl
  alive h a hh := by cases hh
  bound i hi := absurd hi List.not_mem_nil
  views h n hview := by
    obtain ⟨name, hm⟩ := hview
    cases hm
  linked h n i hh hn := by cases hh

theorem eq_of_eqvGen (hs : s.Homes past homes) {h n : Nat}
    (hc : Relation.EqvGen (ViewOf past) h n) : homes[h]? = homes[n]? := by
  induction hc with
  | rel h n hview =>
    obtain ⟨i, hh, hn⟩ := hs.views h n hview
    rw [hh, hn]
  | refl h => rfl
  | symm h n _ ih => exact ih.symm
  | trans h m n _ _ ih₁ ih₂ => exact ih₁.trans ih₂

/-- No number was given out. -/
theorem kept (hs : s.Homes past homes) (hnext : t.nextHandle = s.nextHandle)
    (halive : ∀ h a, t.handle? h = some a → s.handle? h = some a)
    (hlen : t.storages.length = s.storages.length) (hviews : ViewOf later = ViewOf past) :
    t.Homes later homes where
  length := hs.length.trans hnext.symm
  alive h a hh := hs.alive h a (halive h a hh)
  bound i hi := hlen ▸ hs.bound i hi
  views := hviews ▸ hs.views
  linked := hviews ▸ hs.linked

/-- A number was given out, and its home is `i`. The views with the new
number are views of handles with this home, and they reach all of them. -/
theorem grown (hs : s.Homes past homes) {i : Nat} (hnext : t.nextHandle = s.nextHandle + 1)
    (halive : ∀ h a, t.handle? h = some a →
      h = s.nextHandle ∧ a.storage = i ∨ s.handle? h = some a)
    (hi : i < t.storages.length) (hlen : s.storages.length ≤ t.storages.length)
    (hold : ViewOf past ≤ ViewOf later)
    (hnew : ∀ h n, ViewOf later h n → ViewOf past h n ∨ homes[h]? = some i ∧ n = s.nextHandle)
    (hjoin : ∀ h, homes[h]? = some i → Relation.EqvGen (ViewOf later) h s.nextHandle) :
    t.Homes later (homes ++ [i]) := by
  have hlast : (homes ++ [i])[s.nextHandle]? = some i := by
    rw [← hs.length]
    exact List.getElem?_concat_length
  have hfront : ∀ {h j : Nat}, homes[h]? = some j → (homes ++ [i])[h]? = some j := fun hh => by
    rw [List.getElem?_append_left (List.getElem?_eq_some_iff.1 hh).1, hh]
  have hcases : ∀ {h j : Nat}, (homes ++ [i])[h]? = some j →
      homes[h]? = some j ∨ h = s.nextHandle ∧ j = i := fun {h j} hh => by
    rw [List.getElem?_append] at hh
    split at hh
    · exact .inl hh
    · next hge =>
      rw [List.getElem?_singleton] at hh
      split at hh
      · next hzero => exact .inr ⟨by rw [← hs.length]; omega, (Option.some.inj hh).symm⟩
      · cases hh
  constructor
  case length => rw [List.length_append, hs.length, hnext]; rfl
  case alive =>
    intro h a hh
    rcases halive h a hh with ⟨rfl, rfl⟩ | hh
    · exact hlast
    · exact hfront (hs.alive h a hh)
  case bound =>
    intro j hj
    rcases List.mem_append.1 hj with hj | hj
    · exact Nat.lt_of_lt_of_le (hs.bound j hj) hlen
    · rw [List.mem_singleton.1 hj]
      exact hi
  case views =>
    intro h n hview
    rcases hnew h n hview with hview | ⟨hh, rfl⟩
    · obtain ⟨j, hh, hn⟩ := hs.views h n hview
      exact ⟨j, hfront hh, hfront hn⟩
    · exact ⟨i, hfront hh, hlast⟩
  case linked =>
    intro h n j hh hn
    rcases hcases hh with hh | ⟨rfl, rfl⟩ <;> rcases hcases hn with hn | ⟨rfl, hj⟩
    · exact Relation.EqvGen.mono hold _ _ (hs.linked h n j hh hn)
    · exact hjoin h (hj ▸ hh)
    · exact .symm _ _ (hjoin n hn)
    · exact .refl _

/-- What one call makes of the homes. -/
theorem effect (hs : s.Homes past homes) {call : Call} {answer : Answer}
    (he : s.Effect call answer t) : ∃ homes', t.Homes (past ++ [(call, answer)]) homes' := by
  cases he with
  | stay ha => exact ⟨homes, hs.kept rfl (fun _ _ hh => hh) rfl (viewOf_append_of_ne ha)⟩
  | @adopt _ store hc _ =>
    refine ⟨homes ++ [s.storages.length], hs.grown (nextHandle_adopt ..)
      (fun h a hh => ?_) ?_ ?_ ?_ ?_ ?_⟩
    · rw [handle?_adopt] at hh
      split at hh
      · next hnext =>
        obtain rfl := Option.some.inj hh
        exact .inl ⟨hnext, rfl⟩
      · exact .inr hh
    · simp [adopt]
    · simp [adopt]
    · exact fun h n hview => viewOf_append.2 (.inl hview)
    · rw [viewOf_append_of_founds hc]
      exact fun h n hview => .inl hview
    · exact fun h hh => absurd (hs.bound _ (List.mem_of_getElem? hh)) (Nat.lt_irrefl _)
  | @attach h handle name hh =>
    have hhome := hs.alive h handle hh
    have hold : ViewOf past ≤ ViewOf (past ++ [(.view h name, .handle s.nextHandle)]) :=
      fun g n hview => viewOf_append.2 (.inl hview)
    refine ⟨homes ++ [handle.storage], hs.grown (nextHandle_attach ..) (fun g a hg => ?_) ?_
      (Nat.le_refl _) hold (fun g n hview => ?_) (fun g hg => ?_)⟩
    · rw [handle?_attach] at hg
      split at hg
      · next hnext =>
        obtain rfl := Option.some.inj hg
        exact .inl ⟨hnext, rfl⟩
      · exact .inr hg
    · exact hs.bound _ (List.mem_of_getElem? hhome)
    · rcases viewOf_append.1 hview with hview | ⟨_, hcall, hn⟩
      · exact .inl hview
      · cases hcall
        cases hn
        exact .inr ⟨hhome, rfl⟩
    · have hgh := Relation.EqvGen.mono hold _ _ (hs.linked g h _ hg hhome)
      exact hgh.trans _ _ _ (.rel _ _ (viewOf_append.2 (.inr ⟨name, rfl, rfl⟩)))
  | write ha _ _ _ _ =>
    exact ⟨homes, hs.kept rfl (fun _ _ hh => hh) List.length_set (viewOf_append_of_ne ha)⟩
  | release g =>
    refine ⟨homes, hs.kept (nextHandle_release ..) (fun h a hh => ?_) rfl
      (viewOf_append_of_ne fun n hn => by cases hn)⟩
    rw [handle?_release] at hh
    split at hh
    · cases hh
    · exact hh

theorem run (hs : s.Homes past homes) (calls : List Call) :
    ∃ homes', (s.run calls).1.Homes (past ++ s.history calls) homes' := by
  induction calls generalizing s past homes with
  | nil => exact ⟨homes, by rwa [history_nil, List.append_nil]⟩
  | cons call rest ih =>
    obtain ⟨homes', hs'⟩ := hs.effect (s.step_effect call)
    obtain ⟨homes'', hlast⟩ := ih hs'
    rw [List.append_assoc] at hlast
    exact ⟨homes'', hlast⟩

/-- A handle that is there has a storage to look at. -/
theorem storage_of_handle? (hs : s.Homes past homes) {h : Nat} {a : Handle}
    (hh : s.handle? h = some a) : ∃ storage, s.storages[a.storage]? = some storage :=
  ⟨_, List.getElem?_eq_getElem (hs.bound _ (List.mem_of_getElem? (hs.alive h a hh)))⟩

end Homes

end Session

/-! ## 4. What another handle sees of an edit -/

/-- The key that an edit is about when it is about an entry, and what
becomes of the entry. -/
def Edit.entry? : Edit → Option (String × Option String)
  | .set key value => some (key, some value)
  | .insert key value => some (key, some value.render)
  | .unset key | .remove key => some (key, none)
  | .lock _ => none

/-- How the entry of a full key is told. -/
def Answer.ofEntry (key : String) : Option String → Answer
  | some value => .text value
  | none => .failed (.keyNotFound key)

theorem Storage.get?_of_edit {s t : Storage} {scope : String} {e : Edit} {answer : Answer}
    (h : s.edit scope e = .ok (answer, t)) {key : String} {outcome : Option String}
    (he : e.entry? = some (key, outcome)) (full : String) :
    t.entries.get? full = if full = scope ++ key then outcome else s.entries.get? full := by
  cases e with
  | set k value | insert k value =>
    obtain ⟨u, hu, hp⟩ := map_eq_ok_iff.1 h
    obtain ⟨-, rfl⟩ := set_eq_ok_iff.1 hu
    cases hp
    cases he
    exact s.entries.get?_insert _ _ _
  | unset k | remove k =>
    obtain ⟨⟨value, u⟩, hu, hp⟩ := map_eq_ok_iff.1 h
    obtain ⟨-, -, rfl⟩ := unset_eq_ok_iff.1 hu
    cases hp
    cases he
    exact s.entries.get?_erase _ _
  | lock k => cases he

namespace Session

theorem answer_ask_get {s : Session} {h : Nat} {store : Store} (hs : s.store? h = some store)
    (key : String) : (s.step (.ask h (.get key))).answer
      = .ofEntry (store.scope ++ key) (store.storage.entries.get? (store.scope ++ key)) := by
  rw [answer_ask hs, Store.answer, Store.get, Store.qualify]
  cases store.storage.entries.get? (store.scope ++ key) <;> rfl

/-- How the handles of a session keep to their storages. The history is the
one that led to the session. -/
structure Isolated (s : Session) (past : List (Call × Answer)) : Prop where
  /-- A handle that is there looks at a storage, through its scope. -/
  looks : ∀ h a, s.handle? h = some a → ∃ storage, s.store? h = some ⟨storage, a.scope⟩
  /-- Two handles share a storage exactly when views connect them. -/
  shares_iff : ∀ g h a b, s.handle? g = some a → s.handle? h = some b →
    (s.shares g h = true ↔ Relation.EqvGen (ViewOf past) g h)
  /-- Whatever is made of a handle that is there gets the next number. -/
  derived : ∀ h a, s.handle? h = some a → ∀ name,
    (s.step (.view h name)).answer = .handle s.nextHandle
    ∧ (s.step (.subblock h name)).answer = .handle s.nextHandle
    ∧ (s.step (.snapshot h)).answer = .handle s.nextHandle
  /-- So does a storage made from nothing, and one made from pairs unless one
  of them is refused. -/
  created : (s.step .create).answer = .handle s.nextHandle
    ∧ ∀ pairs, (s.step (.createFrom pairs)).answer
        = match (Store.ofEntries pairs).result with
          | .ok _ => .handle s.nextHandle
          | .error err => .failed err
  /-- A handle that is no view shares its storage with itself only. -/
  founds : ∀ (call : Call) n, call.Founds → (s.step call).answer = .handle n →
    ∀ h, (s.step call).session.shares n h = true ↔ h = n
  /-- A call that does not write through a handle sharing with `h`, and does
  not release `h`, leaves every answer of `h` as it is. -/
  untouched : ∀ (call : Call) h a, s.handle? h = some a → call ≠ .release h →
    (∀ g, call.writer? = some g → s.shares g h = false) →
    ∀ q, ((s.step call).session.step (.ask h q)).answer = (s.step (.ask h q)).answer
  /-- A value set or taken away through `g` is seen through `h`, at the same
  full key and at no other. -/
  seen : ∀ g h a b e key outcome, s.handle? g = some a → s.handle? h = some b →
    s.shares g h = true → e.entry? = some (key, outcome) →
    (∀ err, (s.step (.edit g e)).answer ≠ .failed err) →
    ∀ k, ((s.step (.edit g e)).session.step (.ask h (.get k))).answer
      = if b.scope ++ k = a.scope ++ key then .ofEntry (b.scope ++ k) outcome
        else (s.step (.ask h (.get k))).answer

namespace Homes

variable {s : Session} {past : List (Call × Answer)} {homes : List Nat}

theorem shares_iff (hs : s.Homes past homes) {g h : Nat} {a b : Handle}
    (hg : s.handle? g = some a) (hh : s.handle? h = some b) :
    s.shares g h = true ↔ Relation.EqvGen (ViewOf past) g h := by
  have hhg := hs.alive g a hg
  have hhh := hs.alive h b hh
  rw [shares_eq_true_iff hg hh]
  constructor
  · intro heq
    exact hs.linked g h _ hhg (heq ▸ hhh)
  · intro hc
    have heq := hs.eq_of_eqvGen hc
    rw [hhg, hhh] at heq
    exact Option.some.inj heq

theorem derived (hs : s.Homes past homes) {h : Nat} {a : Handle} (hh : s.handle? h = some a)
    (name : String) :
    (s.step (.view h name)).answer = .handle s.nextHandle
      ∧ (s.step (.subblock h name)).answer = .handle s.nextHandle
      ∧ (s.step (.snapshot h)).answer = .handle s.nextHandle := by
  obtain ⟨storage, hi⟩ := hs.storage_of_handle? hh
  have hstore := store?_of_handle? hh hi
  simp only [step, view_of_handle? hh, copy_of_store? hstore, and_self]

theorem founds (hs : s.Homes past homes) {call : Call} {n : Nat} (hc : call.Founds)
    (hn : (s.step call).answer = .handle n) (h : Nat) :
    (s.step call).session.shares n h = true ↔ h = n := by
  have he := s.step_effect call
  rw [hn] at he
  generalize (s.step call).session = t at he
  cases he with
  | stay ha => exact absurd rfl (ha n)
  | @adopt _ store _ _ =>
    have hnew : (s.adopt store).handle? s.nextHandle = some ⟨s.storages.length, store.scope⟩ := by
      rw [handle?_adopt, if_pos rfl]
    by_cases hne : h = s.nextHandle
    · rw [hne]
      exact iff_of_true ((shares_eq_true_iff hnew hnew).2 rfl) rfl
    · refine iff_of_false (fun hshares => ?_) hne
      cases hh : s.handle? h with
      | none =>
        have hnone : (s.adopt store).handle? h = none := by rw [handle?_adopt, if_neg hne, hh]
        simp [shares, hnone] at hshares
      | some b =>
        -- Every storage that was there before has a smaller number.
        have hold : (s.adopt store).handle? h = some b := by rw [handle?_adopt, if_neg hne, hh]
        have hlt := hs.bound _ (List.mem_of_getElem? (hs.alive h b hh))
        have heq : s.storages.length = b.storage := (shares_eq_true_iff hnew hold).1 hshares
        omega
  | attach => exact absurd hc id
  | write ha => exact absurd rfl (ha n)

theorem untouched (hs : s.Homes past homes) {call : Call} {h : Nat} {a : Handle}
    (hh : s.handle? h = some a) (hr : call ≠ .release h)
    (hw : ∀ g, call.writer? = some g → s.shares g h = false) (q : Query) :
    ((s.step call).session.step (.ask h q)).answer = (s.step (.ask h q)).answer := by
  obtain ⟨storage, hi⟩ := hs.storage_of_handle? hh
  have hstore := store?_of_handle? hh hi
  rw [answer_ask ((s.step_effect call).store? hstore hr hw), answer_ask hstore]

theorem seen (hs : s.Homes past homes) {g h : Nat} {a b : Handle} {e : Edit} {key : String}
    {outcome : Option String} (hg : s.handle? g = some a) (hh : s.handle? h = some b)
    (hshares : s.shares g h = true) (he : e.entry? = some (key, outcome))
    (hok : ∀ err, (s.step (.edit g e)).answer ≠ .failed err) (k : String) :
    ((s.step (.edit g e)).session.step (.ask h (.get k))).answer
      = if b.scope ++ k = a.scope ++ key then .ofEntry (b.scope ++ k) outcome
        else (s.step (.ask h (.get k))).answer := by
  obtain ⟨i, sg⟩ := a
  obtain ⟨j, sh⟩ := b
  obtain rfl : i = j := (shares_eq_true_iff hg hh).1 hshares
  obtain ⟨storage, hi⟩ := hs.storage_of_handle? hg
  have hsg := store?_of_handle? hg hi
  have hsh := store?_of_handle? hh hi
  cases hedit : storage.edit sg e with
  | error err => exact absurd (step_edit_of_error hsg hedit).2 (hok err)
  | ok p =>
    have hi' : ({ s with storages := s.storages.set i p.2 } : Session).storages[i]? = some p.2 :=
      List.getElem?_set_self (List.getElem?_eq_some_iff.1 hi).1
    have hlater := store?_of_handle? (s := { s with storages := s.storages.set i p.2 }) hh hi'
    rw [(step_edit_of_ok hsg hedit).1, putBack_of_handle? hg, answer_ask_get hlater,
      answer_ask_get hsh, Storage.get?_of_edit hedit he]
    split <;> rfl

end Homes

theorem answer_createFrom (s : Session) (pairs : List (String × String)) :
    (s.step (.createFrom pairs)).answer
      = match (Store.ofEntries pairs).result with
        | .ok _ => .handle s.nextHandle
        | .error err => .failed err := by
  rw [step]
  obtain ⟨events, result⟩ := Store.ofEntries pairs
  cases result <;> rfl

/-- After any calls, handles share exactly along views, every other new
handle has a storage of its own, calls through the handles of one storage
are not felt through those of another, and within a storage every handle
sees a change at once. -/
theorem isolated_run (calls : List Call) :
    (Session.run {} calls).1.Isolated (Session.history {} calls) := by
  obtain ⟨homes, hs⟩ := Homes.empty.run calls
  constructor
  case looks =>
    intro h a hh
    exact (hs.storage_of_handle? hh).imp fun _ hi => store?_of_handle? hh hi
  case shares_iff => exact fun _ _ _ _ hg hh => hs.shares_iff hg hh
  case derived => exact fun _ _ hh name => hs.derived hh name
  case created => exact ⟨rfl, answer_createFrom _⟩
  case founds => exact fun _ _ hc hn => hs.founds hc hn
  case untouched => exact fun _ _ _ hh hr hw => hs.untouched hh hr hw
  case seen => exact fun _ _ _ _ _ _ _ hg hh hsh he hok => hs.seen hg hh hsh he hok

/-- A view of a view, after the handle in between was released, and a copy
of the whole. The two handles at the ends share a storage. What is set
through one is seen through the other, a copy of it has a storage of its own,
and to merge it into the first copy leaves it as it is. -/
theorem isolated_after_release :
    let calls : List Call := [.createFrom [("a:b:k", "1"), ("c", "2")], .view 0 "a", .view 1 "b",
      .snapshot 0, .release 1]
    let past := Session.history {} calls
    let s := (Session.run {} calls).1
    s.handle? 1 = none ∧ s.shares 0 2 = true ∧ s.shares 3 2 = false
      ∧ Relation.EqvGen (ViewOf past) 0 2 ∧ ¬ Relation.EqvGen (ViewOf past) 3 2
      ∧ (s.step (.subblock 2 "d")).answer = .handle 4
      ∧ (∀ h, (s.step (.subblock 2 "d")).session.shares 4 h = true ↔ h = 4)
      ∧ ((s.step (.edit 2 (.set "k" "3"))).session.step (.ask 0 (.get "a:b:k"))).answer = .text "3"
      ∧ ((s.step (.edit 2 (.set "k" "3"))).session.step (.ask 0 (.get "c"))).answer = .text "2"
      ∧ ((s.step (.merge 3 2)).session.step (.ask 2 .entries)).answer = .entries [("k", "1")]
      ∧ ((s.step (.merge 3 2)).session.step (.ask 3 .keys)).answer
          = .keys ["a:b:k", "c", "k"] := by
  intro calls past s
  have hs : s.Isolated past := isolated_run calls
  have hroot : s.handle? 0 = some ⟨0, ""⟩ := by decide
  have hview : s.handle? 2 = some ⟨0, "a:b:"⟩ := by decide
  have hcopy : s.handle? 3 = some ⟨1, ""⟩ := by decide
  have hshared : s.shares 0 2 = true := by decide
  have hapart : s.shares 3 2 = false := by decide
  have hnew : (s.step (.subblock 2 "d")).answer = .handle 4 := (hs.derived 2 _ hview "d").2.1
  have hset : ∀ err, (s.step (.edit 2 (.set "k" "3"))).answer ≠ .failed err := by
    have hdone : (s.step (.edit 2 (.set "k" "3"))).answer = .done := by decide
    rw [hdone]
    exact nofun
  have hseen := hs.seen 2 0 _ _ (.set "k" "3") "k" (some "3") hview hroot (by decide) rfl hset
  have hmerge : ∀ g, (Call.merge 3 2).writer? = some g → s.shares g 2 = false := by
    rintro g ⟨⟩
    exact hapart
  refine ⟨by decide, hshared, hapart, (hs.shares_iff 0 2 _ _ hroot hview).1 hshared,
    mt (hs.shares_iff 3 2 _ _ hcopy hview).2 (by simp [hapart]), hnew,
    hs.founds (.subblock 2 "d") 4 trivial hnew, ?_, ?_, ?_, by decide⟩
  · exact (hseen "a:b:k").trans (by decide)
  · exact (hseen "c").trans (by decide)
  · exact (hs.untouched (.merge 3 2) 2 _ hview nofun hmerge .entries).trans (by decide)

end Session

end BlockConfig
