/-
BlockConfig.Proofs.Session.Client — working with a session through some of
its handles.

A `Client` holds handles of a session and knows of no others. It has
numbers of its own for them, and a handle that a call gives back to it is
held from then on. So a client can ask and change what its handles look
at, derive further handles from them, and merge among them, in a session
that may hold any number of other storages and handles.

What a client is told does not depend on those. `Client.Keeps` relates the
client to a session of its own, which has no storages and handles but the
client's, under the client's numbers. Every call keeps the relation and is
answered in the client's own session as it is in the other one
(`Keeps.step`, `Keeps.run`). The relation is a renumbering: `own` lists the
storages of the client in the order in which the client met them, and each
number stands in it once.
-/
import BlockConfig.Proofs.Session.Sharing

namespace BlockConfig

/-! ## 1. Clients -/

/-- The same call with other numbers for its handles. -/
def Call.renumber (f : Nat → Nat) : Call → Call
  | .create => .create
  | .createFrom pairs => .createFrom pairs
  | .subblock h name => .subblock (f h) name
  | .view h name => .view (f h) name
  | .snapshot h => .snapshot (f h)
  | .edit h e => .edit (f h) e
  | .merge h source => .merge (f h) (f source)
  | .ask h q => .ask (f h) q
  | .showsSame h other => .showsSame (f h) (f other)
  | .shares h other => .shares (f h) (f other)
  | .release h => .release (f h)

/-- A session, and the numbers of the handles that a client holds in it. -/
structure Client where
  session : Session
  held : List Nat

namespace Client

/-- The number that the session has for a handle of the client. What the
client does not hold has a number that no handle has. -/
def number (c : Client) (k : Nat) : Nat := c.held.getD k c.session.nextHandle

def handle? (c : Client) (k : Nat) : Option Handle := c.session.handle? (c.number k)

/-- Take note of what a call left. A handle is held from now on, and the
client is told its own number for it. -/
def receive (c : Client) (later : Session) : Answer → Client × Answer
  | .handle n => (⟨later, c.held ++ [n]⟩, .handle c.held.length)
  | answer => (⟨later, c.held⟩, answer)

def step (c : Client) (call : Call) : Client × Answer :=
  let step := c.session.step (call.renumber c.number)
  c.receive step.session step.answer

def run (c : Client) : List Call → Client × List Answer
  | [] => (c, [])
  | call :: rest =>
    let first := c.step call
    let later := first.1.run rest
    (later.1, first.2 :: later.2)

theorem receive_of_ne (c : Client) (later : Session) {answer : Answer}
    (ha : ∀ n, answer ≠ .handle n) : c.receive later answer = (⟨later, c.held⟩, answer) := by
  cases answer with
  | handle n => exact absurd rfl (ha n)
  | _ => rfl

theorem number_of_lt {c : Client} {k : Nat} (hk : k < c.held.length) : c.number k = c.held[k] := by
  simp [number, List.getD, hk]

theorem number_of_ge {c : Client} {k : Nat} (hk : c.held.length ≤ k) :
    c.number k = c.session.nextHandle := by
  simp [number, List.getD, hk]

theorem number_concat {c : Client} {later : Session} {n k : Nat} (hk : k < c.held.length) :
    number ⟨later, c.held ++ [n]⟩ k = c.number k := by
  rw [number_of_lt hk, number_of_lt (by simp; omega)]
  exact List.getElem_append_left hk

/-! ## 2. The session that a client has for itself -/

/-- The session `l` is what the client has of its session: the storages
numbered by `own`, and the held handles. -/
structure Keeps (c : Client) (own : List Nat) (l : Session) : Prop where
  distinct : own.Nodup
  storages_length : own.length = l.storages.length
  storages : ∀ i j : Nat, own[j]? = some i → c.session.storages[i]? = l.storages[j]?
  held_distinct : c.held.Nodup
  held_length : c.held.length = l.nextHandle
  bound : ∀ n ∈ c.held, n < c.session.nextHandle
  /-- A handle of the client looks at the same storage under its other number. -/
  alive : ∀ k a, l.handle? k = some a →
    ∃ i, own[a.storage]? = some i ∧ c.session.handle? (c.number k) = some ⟨i, a.scope⟩
  gone : ∀ k, l.handle? k = none → c.session.handle? (c.number k) = none

namespace Keeps

variable {c : Client} {own : List Nat} {l : Session}

theorem store?_eq (h : c.Keeps own l) (k : Nat) :
    c.session.store? (c.number k) = l.store? k := by
  cases hk : l.handle? k with
  | none =>
    have hgone := h.gone k hk
    simp [Session.store?, hk, hgone]
  | some a =>
    obtain ⟨i, hi, hc⟩ := h.alive k a hk
    simp [Session.store?, hk, hc, h.storages i _ hi]

/-- Storages beside the client's own have other numbers. -/
theorem lt_of_getElem? (h : c.Keeps own l) {i j : Nat} (hi : own[j]? = some i) :
    i < c.session.storages.length := by
  have hj : j < l.storages.length := h.storages_length ▸ (List.getElem?_eq_some_iff.1 hi).1
  have hs := h.storages i j hi
  rw [List.getElem?_eq_getElem hj] at hs
  exact (List.getElem?_eq_some_iff.1 hs).1

/-- Within the list of the client's storages a number has one place. -/
theorem place_eq_iff (h : c.Keeps own l) {i i' j j' : Nat} (hi : own[j]? = some i)
    (hi' : own[j']? = some i') : i = i' ↔ j = j' := by
  constructor
  · rintro rfl
    have hlt := (List.getElem?_eq_some_iff.1 hi).1
    exact (List.getElem?_inj hlt h.distinct).1 (hi.trans hi'.symm)
  · rintro rfl
    exact Option.some.inj (hi.symm.trans hi')

/-! ### Kinds of changes -/

theorem putBack (h : c.Keeps own l) {k : Nat} {a : Handle} (hk : l.handle? k = some a)
    (next : Storage) :
    Keeps ⟨c.session.putBack (c.number k) next, c.held⟩ own (l.putBack k next) := by
  obtain ⟨i, hi, hc⟩ := h.alive k a hk
  rw [Session.putBack_of_handle? hk, Session.putBack_of_handle? hc]
  refine { h with storages_length := ?_, storages := fun i' j' hi' => ?_ }
  · rw [h.storages_length, List.length_set]
  · have hplace := h.place_eq_iff hi hi'
    have hlen : a.storage < l.storages.length :=
      h.storages_length ▸ (List.getElem?_eq_some_iff.1 hi).1
    by_cases heq : i = i'
    · obtain rfl := heq
      obtain rfl := hplace.1 rfl
      rw [List.getElem?_set_self (h.lt_of_getElem? hi), List.getElem?_set_self hlen]
    · rw [List.getElem?_set_ne heq, List.getElem?_set_ne (mt hplace.2 heq), h.storages i' j' hi']

theorem number_lt (h : c.Keeps own l) {k : Nat} (hk : k < c.held.length) :
    c.number k < c.session.nextHandle := by
  rw [number_of_lt hk]
  exact h.bound _ (List.getElem_mem hk)

theorem lt_held_length (h : c.Keeps own l) {k : Nat} {a : Handle} (hk : l.handle? k = some a) :
    k < c.held.length :=
  h.held_length ▸ Session.lt_nextHandle hk

/-- A storage that nobody has a handle to yet. -/
theorem grow (h : c.Keeps own l) (storage : Storage) :
    Keeps ⟨{ c.session with storages := c.session.storages ++ [storage] }, c.held⟩
      (own ++ [c.session.storages.length])
      { l with storages := l.storages ++ [storage] } := by
  refine { h with
    distinct := ?_, storages_length := ?_, storages := fun i j hi => ?_, alive := fun k a hk => ?_ }
  · refine List.nodup_append.2 ⟨h.distinct, by simp, fun i hi i' hi' => ?_⟩
    rw [List.mem_singleton.1 hi']
    obtain ⟨j, hj⟩ := List.mem_iff_getElem?.1 hi
    exact Nat.ne_of_lt (h.lt_of_getElem? hj)
  · simp [h.storages_length]
  · -- Places up to the end are as before; the place at the end is that of the new storage.
    rcases Nat.lt_or_ge j own.length with hj | hj
    · rw [List.getElem?_append_left hj] at hi
      rw [List.getElem?_append_left (h.lt_of_getElem? hi),
        List.getElem?_append_left (h.storages_length ▸ hj), h.storages i j hi]
    · rw [List.getElem?_append_right hj, List.getElem?_singleton] at hi
      split at hi
      · next hzero =>
        obtain rfl := Option.some.inj hi
        obtain rfl : j = l.storages.length := by have := h.storages_length; omega
        simp
      · cases hi
  · obtain ⟨i, hi, hc⟩ := h.alive k a hk
    exact ⟨i, by rw [List.getElem?_append_left (List.getElem?_eq_some_iff.1 hi).1, hi], hc⟩

/-- The client's last handle is the new one, and the others are what they
were. -/
theorem handle?_number_attach (h : c.Keeps own l) (new : Handle) (k : Nat) :
    (c.session.attach new).handle?
        (number ⟨c.session.attach new, c.held ++ [c.session.nextHandle]⟩ k)
      = if k = c.held.length then some new else c.session.handle? (c.number k) := by
  rcases Nat.lt_trichotomy k c.held.length with hlt | rfl | hgt
  · rw [number_concat hlt, Session.handle?_attach, if_neg (Nat.ne_of_lt (h.number_lt hlt)),
      if_neg (Nat.ne_of_lt hlt)]
  · rw [number_of_lt (by simp), if_pos rfl, List.getElem_append_right (Nat.le_refl _)]
    simp [Session.handle?_attach]
  · rw [number_of_ge (by simp; omega), number_of_ge (Nat.le_of_lt hgt),
      if_neg (Nat.ne_of_gt hgt), Session.handle?_nextHandle, Session.handle?_nextHandle]

/-- A handle onto a storage of the client, which the client holds from now
on. -/
theorem attach (h : c.Keeps own l) {a : Handle} {i : Nat} (hi : own[a.storage]? = some i) :
    Keeps ⟨c.session.attach ⟨i, a.scope⟩, c.held ++ [c.session.nextHandle]⟩ own (l.attach a) := by
  refine { h with
    held_distinct := ?_, held_length := ?_, bound := fun n hn => ?_, alive := fun k b hk => ?_,
    gone := fun k hk => ?_ }
  · refine List.nodup_append.2 ⟨h.held_distinct, by simp, fun n hn n' hn' => ?_⟩
    rw [List.mem_singleton.1 hn']
    exact Nat.ne_of_lt (h.bound n hn)
  · rw [Session.nextHandle_attach, List.length_append, h.held_length]
    rfl
  · rw [Session.nextHandle_attach]
    rcases List.mem_append.1 hn with hn | hn
    · exact Nat.lt_succ_of_lt (h.bound n hn)
    · rw [List.mem_singleton.1 hn]
      exact Nat.lt_succ_self _
  · rw [h.handle?_number_attach]
    rw [Session.handle?_attach, ← h.held_length] at hk
    split at hk
    · next heq =>
      obtain rfl := Option.some.inj hk
      exact ⟨i, hi, if_pos heq⟩
    · next hne =>
      obtain ⟨i', hi', hc⟩ := h.alive k b hk
      exact ⟨i', hi', (if_neg hne).trans hc⟩
  · rw [h.handle?_number_attach]
    rw [Session.handle?_attach, ← h.held_length] at hk
    split at hk
    · cases hk
    · next hne => exact (if_neg hne).trans (h.gone k hk)

theorem adopt (h : c.Keeps own l) (store : Store) :
    Keeps ⟨c.session.adopt store, c.held ++ [c.session.nextHandle]⟩
      (own ++ [c.session.storages.length]) (l.adopt store) := by
  have hlast : (own ++ [c.session.storages.length])[l.storages.length]?
      = some c.session.storages.length := by
    rw [← h.storages_length]
    exact List.getElem?_concat_length
  exact (h.grow store.storage).attach (a := ⟨l.storages.length, store.scope⟩) hlast

theorem eq_of_number_eq (h : c.Keeps own l) {k k' : Nat} (hk : k < c.held.length)
    (heq : c.number k = c.number k') : k = k' := by
  have hlt := h.number_lt hk
  rcases Nat.lt_or_ge k' c.held.length with hk' | hk'
  · rw [number_of_lt hk, number_of_lt hk'] at heq
    exact (List.getElem_inj h.held_distinct).1 heq
  · rw [number_of_ge hk'] at heq
    omega

theorem release (h : c.Keeps own l) (k : Nat) :
    Keeps ⟨c.session.release (c.number k), c.held⟩ own (l.release k) := by
  let c' : Client := ⟨c.session.release (c.number k), c.held⟩
  have hhandle : ∀ k', c'.session.handle? (c'.number k')
      = if c.number k' = c.number k then none else c.session.handle? (c.number k') := by
    intro k'
    have hnumber : c'.number k' = c.number k' := by
      simp only [number, c', Session.nextHandle_release]
    rw [hnumber, Session.handle?_release]
  refine { h with
    held_length := ?_, bound := ?_, alive := fun k' a hk' => ?_, gone := fun k' hk' => ?_ }
  · rw [Session.nextHandle_release]
    exact h.held_length
  · rw [Session.nextHandle_release]
    exact h.bound
  · rw [Session.handle?_release] at hk'
    split at hk'
    · cases hk'
    · next hne =>
      -- Other handles of the client have other numbers, so they stay.
      obtain ⟨i, hi, hc⟩ := h.alive k' a hk'
      refine ⟨i, hi, (hhandle k').trans ?_⟩
      rw [if_neg fun heq => hne (h.eq_of_number_eq (h.lt_held_length hk') heq), hc]
  · rw [Session.handle?_release] at hk'
    refine (hhandle k').trans ?_
    split at hk'
    · next heq => rw [if_pos (by rw [heq])]
    · rw [h.gone k' hk', ite_self]

end Keeps

/-! ## 3. Steps and runs -/

/-- What a call did to the session of a client is what another did to the
client's own. Storages of the client may have come to it. -/
def Follows (c : Client) (own : List Nat) (x y : Step) : Prop :=
  ∃ more, (c.receive x.session x.answer).2 = y.answer
    ∧ (c.receive x.session x.answer).1.Keeps (own ++ more) y.session

/-- A call that gives back no handle, and leaves the storages and handles
of the client as they belong together. -/
theorem Follows.of_keeps {c : Client} {own : List Nat} {x y : Step} (ha : ∀ n, x.answer ≠ .handle n)
    (heq : x.answer = y.answer) (hkeeps : Keeps ⟨x.session, c.held⟩ own y.session) :
    c.Follows own x y := by
  rw [Follows, c.receive_of_ne x.session ha]
  exact ⟨[], heq, by rwa [List.append_nil]⟩

namespace Keeps

variable {c : Client} {own : List Nat} {l : Session}

theorem follows_noHandle (h : c.Keeps own l) :
    c.Follows own ⟨c.session, .noHandle, []⟩ ⟨l, .noHandle, []⟩ :=
  .of_keeps (fun n hn => by cases hn) rfl h

theorem follows_adopt (h : c.Keeps own l) (store : Store) (events events' : List Event) :
    c.Follows own ⟨c.session.adopt store, .handle c.session.nextHandle, events⟩
      ⟨l.adopt store, .handle l.nextHandle, events'⟩ :=
  ⟨[c.session.storages.length], congrArg Answer.handle h.held_length, h.adopt store⟩

theorem follows_asking (h : c.Keeps own l) (k : Nat) {f : Store → Answer}
    (hf : ∀ store n, f store ≠ .handle n) :
    c.Follows own (c.session.asking (c.number k) f) (l.asking k f) := by
  have hs := h.store?_eq k
  unfold Session.asking
  rw [hs]
  cases l.store? k with
  | none => exact h.follows_noHandle
  | some store => exact .of_keeps (hf store) rfl h

theorem follows_copy (h : c.Keeps own l) (k : Nat) (name : String) :
    c.Follows own (c.session.copy (c.number k) name) (l.copy k name) := by
  have hs := h.store?_eq k
  unfold Session.copy
  rw [hs]
  cases l.store? k with
  | none => exact h.follows_noHandle
  | some store => exact h.follows_adopt _ _ _

theorem follows_view (h : c.Keeps own l) (k : Nat) (name : String) :
    c.Follows own (c.session.view (c.number k) name) (l.view k name) := by
  unfold Session.view
  cases hk : l.handle? k with
  | none =>
    have hc := h.gone k hk
    rw [hc]
    exact h.follows_noHandle
  | some a =>
    obtain ⟨i, hi, hc⟩ := h.alive k a hk
    rw [hc]
    refine ⟨[], congrArg Answer.handle h.held_length, ?_⟩
    rw [List.append_nil]
    exact h.attach (a := a.view name) hi

theorem follows_editing (h : c.Keeps own l) (k : Nat)
    {f : Store → Traced ConfigError (Answer × Store)}
    (hf : ∀ store answer next, (f store).result = .ok (answer, next) → answer.Plain) :
    c.Follows own (c.session.editing (c.number k) f) (l.editing k f) := by
  have hs := h.store?_eq k
  rcases l.editing_cases k f with ⟨hl, heq⟩ | ⟨store, e, hl, he, heq⟩
    | ⟨store, answer, next, hl, hok, heq⟩ <;> rw [hl] at hs <;> rw [heq]
  · rw [Session.editing_of_none hs]
    exact h.follows_noHandle
  · rw [Session.editing_of_error hs he]
    exact .of_keeps (fun n hn => by cases hn) rfl h
  · obtain ⟨i, hk, -⟩ := Session.store?_eq_some_iff.1 hl
    rw [Session.editing_of_ok hs hok]
    exact .of_keeps (hf store answer next hok).ne_handle rfl (h.putBack hk next.storage)

theorem shares_eq (h : c.Keeps own l) (k other : Nat) :
    c.session.shares (c.number k) (c.number other) = l.shares k other := by
  unfold Session.shares
  cases hk : l.handle? k with
  | none =>
    have hc := h.gone k hk
    rw [hc]
  | some a =>
    obtain ⟨i, hi, hc⟩ := h.alive k a hk
    rw [hc]
    cases ho : l.handle? other with
    | none =>
      have hc' := h.gone other ho
      rw [hc']
    | some b =>
      obtain ⟨j, hj, hc'⟩ := h.alive other b ho
      rw [hc']
      exact decide_eq_decide.2 (h.place_eq_iff hi hj)

/-- A call through the client is the call in the client's own session. -/
theorem follows_step (h : c.Keeps own l) (call : Call) :
    c.Follows own (c.session.step (call.renumber c.number)) (l.step call) := by
  cases call with
  | create => exact h.follows_adopt .empty [] []
  | createFrom pairs =>
    simp only [Call.renumber, Session.step]
    cases Store.ofEntries pairs with
    | mk events result =>
      cases result with
      | error e => exact .of_keeps (fun n hn => by cases hn) rfl h
      | ok store => exact h.follows_adopt store events events
  | subblock k name => exact h.follows_copy k name
  | view k name => exact h.follows_view k name
  | snapshot k => exact h.follows_copy k ""
  | edit k e => exact h.follows_editing k fun _ _ _ hok => (Store.outcome_of_edit hok).1
  | merge k source =>
    have hg := h.store?_eq source
    rw [Call.renumber]
    cases hl : l.store? source with
    | none =>
      rw [Session.step_merge_of_none (hg.trans hl), Session.step_merge_of_none hl]
      exact h.follows_noHandle
    | some given =>
      rw [Session.step_merge_of_some (hg.trans hl), Session.step_merge_of_some hl]
      exact h.follows_editing k fun _ _ _ hok => (Store.outcome_of_merge hok).1
  | ask k q => exact h.follows_asking k fun store => store.answer_ne_handle q
  | showsSame k other =>
    have hs := h.store?_eq other
    simp only [Call.renumber, Session.step, hs]
    cases l.store? other with
    | none => exact h.follows_noHandle
    | some shown => exact h.follows_asking k fun _ _ hn => by cases hn
  | shares k other =>
    exact .of_keeps (fun n hn => by cases hn) (congrArg Answer.flag (h.shares_eq k other)) h
  | release k => exact .of_keeps (fun n hn => by cases hn) rfl (h.release k)

theorem step (h : c.Keeps own l) (call : Call) :
    ∃ more, (c.step call).2 = (l.step call).answer
      ∧ (c.step call).1.Keeps (own ++ more) (l.step call).session :=
  h.follows_step call

/-- Whatever a client calls, it is told what it would be told in a session
of its own. -/
theorem run (h : c.Keeps own l) (calls : List Call) :
    ∃ more, (c.run calls).2 = (l.run calls).2
      ∧ (c.run calls).1.Keeps (own ++ more) (l.run calls).1 := by
  induction calls generalizing c own l with
  | nil => exact ⟨[], rfl, by rwa [List.append_nil]⟩
  | cons call rest ih =>
    obtain ⟨more, hanswer, hnext⟩ := h.step call
    obtain ⟨more', hanswers, hlast⟩ := ih hnext
    refine ⟨more ++ more', ?_, ?_⟩
    · rw [Client.run, Session.run, hanswer, hanswers]
    · rwa [← List.append_assoc]

end Keeps

end Client

end BlockConfig
