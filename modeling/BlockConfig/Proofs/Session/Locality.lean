/-
BlockConfig.Proofs.Session.Locality — what happens below one scope depends
on nothing else, and changes nothing else.

Take two configurations that agree on every key that a scope leads, and
may differ at all others, neighbours in the order of the keys included. A
client that has handles of this scope, in whatever session, cannot tell
the one configuration from the other. Its calls have the same answers,
they leave two configurations that agree below the scope again, what was
copied out on the way is the same, and no key that the scope does not lead
has been touched (`Client.run_eq_of_agree`).

The proof is about two sessions side by side. Storage 0 is the
configuration in question, on each side in its own version, and all other
storages are the same on both sides (`Session.Alike`). A handle onto
storage 0 has a scope that goes on from the given one. So whatever a handle
looks at, the two stores give the same outcome to every operation
(`Store.Alike`), and this is what each call is taken apart into
(`Session.Alike.step`). How a client's handles come to be those of such a
session is the matter of `Client.Keeps`.
-/
import BlockConfig.Proofs.Session.Client
import BlockConfig.Proofs.Store.Mirror

namespace BlockConfig

/-! ## 1. Two versions of a storage -/

/-- What has become of two storages by calls below a scope: below it they
agree, and elsewhere each is what it was. -/
structure Storage.Within (p : String) (b₁ b₂ x y : Storage) : Prop where
  inside : x.Mirrors p p y
  left : b₁.AgreeWhere (fun key => ¬ Key.Leads p key) x
  right : b₂.AgreeWhere (fun key => ¬ Key.Leads p key) y

/-! ## 2. What the handles of both sides look at -/

/-- Stores onto storage `i` of the one session and of the other. -/
inductive Store.Alike (p : String) (b₁ b₂ : Storage) : Nat → Store → Store → Prop
  | versions {s t : Store} (q : String) (hs : s.scope = p ++ q) (ht : t.scope = p ++ q)
      (h : Storage.Within p b₁ b₂ s.storage t.storage) : Alike p b₁ b₂ 0 s t
  | same {i : Nat} {store : Store} : Alike p b₁ b₂ (i + 1) store store

namespace Store.Alike

variable {p : String} {b₁ b₂ : Storage} {i j : Nat} {s t : Store}

theorem entries_eq (h : Alike p b₁ b₂ i s t) : s.entries = t.entries := by
  cases h with
  | versions q hs ht h => exact Store.Mirrors.entries_eq ⟨hs, ht, h.inside⟩
  | same => rfl

theorem subblock_eq (h : Alike p b₁ b₂ i s t) (name : String) :
    s.subblock name = t.subblock name := by
  cases h with
  | versions q hs ht h => exact Store.Mirrors.subblock_eq ⟨hs, ht, h.inside⟩ name
  | same => rfl

theorem answer_eq (h : Alike p b₁ b₂ i s t) (q : Query) : s.answer q = t.answer q := by
  cases h with
  | same => rfl
  | versions scope hs ht h => exact Store.Mirrors.answer_eq ⟨hs, ht, h.inside⟩ q

/-- What was accepted on both sides leaves two versions again, if it touched
nothing but what its scope leads. -/
theorem next {u v : Store} {q : String} (hm : Store.Mirrors p p q u v)
    (h : Storage.Within p b₁ b₂ s.storage t.storage)
    (hu : s.storage.AgreeWhere (fun key => ¬ Key.Leads (p ++ q) key) u.storage)
    (hv : t.storage.AgreeWhere (fun key => ¬ Key.Leads (p ++ q) key) v.storage) :
    Alike p b₁ b₂ 0 u v :=
  .versions q hm.left hm.right ⟨hm.storage, h.left.trans (hu.imp fun _ => mt Key.Leads.of_append),
    h.right.trans (hv.imp fun _ => mt Key.Leads.of_append)⟩

theorem edit (h : Alike p b₁ b₂ i s t) (e : Edit) :
    Matched Eq (fun u v => u.1 = v.1 ∧ Alike p b₁ b₂ i u.2 v.2) (s.edit e).result
      (t.edit e).result := by
  cases h with
  | same =>
    cases (s.edit e).result with
    | error err => exact .error rfl
    | ok u => exact .ok ⟨rfl, .same⟩
  | versions q hs ht h =>
    have hm : Store.Mirrors p p q s t := ⟨hs, ht, h.inside⟩
    rcases (hm.edit (.refl p) e).cases with ⟨err, err', hx, hy, he⟩ | ⟨u, v, hx, hy, heq, hm⟩
    · rw [hx, hy]
      exact .error he.eq
    · rw [hx, hy]
      exact .ok ⟨heq, .next hm h (hs ▸ Store.agree_of_edit hx) (ht ▸ Store.agree_of_edit hy)⟩

theorem merge (h : Alike p b₁ b₂ i s t) {given given' : Store}
    (hg : Alike p b₁ b₂ j given given') :
    Matched Eq (Alike p b₁ b₂ i) (s.merge given).result (t.merge given').result := by
  cases h with
  | same =>
    have hincoming : s.incoming given = s.incoming given' := by
      rw [Store.incoming, Store.incoming, hg.entries_eq]
    rw [Store.result_merge, Store.result_merge, hincoming]
    cases s.storage.setAll (s.incoming given') with
    | error err => exact .error rfl
    | ok x => exact .ok .same
  | versions q hs ht h =>
    have hm : Store.Mirrors p p q s t := ⟨hs, ht, h.inside⟩
    rcases (hm.merge (.refl p) hg.entries_eq).cases with
      ⟨err, err', hx, hy, key, -, he⟩ | ⟨u, v, hx, hy, hm⟩
    · rw [hx, hy]
      exact .error he.eq
    · rw [hx, hy]
      exact .ok (.next hm h (hs ▸ Store.agree_of_merge hx) (ht ▸ Store.agree_of_merge hy))

end Store.Alike

/-! ## 3. Two sessions side by side -/

namespace Session

/-- The sessions have two versions of storage 0, and are the same otherwise.
Handles onto storage 0 stay below the scope. -/
structure Alike (p : String) (b₁ b₂ : Storage) (s t : Session) : Prop where
  handles : s.handles = t.handles
  storages : ∃ x y rest, s.storages = x :: rest ∧ t.storages = y :: rest
    ∧ Storage.Within p b₁ b₂ x y
  leads : ∀ h scope, s.handle? h = some ⟨0, scope⟩ → Key.Leads p scope

namespace Alike

variable {p : String} {b₁ b₂ : Storage} {s t : Session}

theorem handle?_eq (h : Alike p b₁ b₂ s t) (k : Nat) : s.handle? k = t.handle? k := by
  rw [handle?, handle?, h.handles]

theorem storages_length (h : Alike p b₁ b₂ s t) : s.storages.length = t.storages.length := by
  obtain ⟨x, y, rest, hs, ht, -⟩ := h.storages
  rw [hs, ht, List.length_cons, List.length_cons]

theorem storages_pos (h : Alike p b₁ b₂ s t) : 0 < s.storages.length := by
  obtain ⟨x, y, rest, hs, -, -⟩ := h.storages
  rw [hs, List.length_cons]
  exact Nat.succ_pos _

theorem storages_eq (h : Alike p b₁ b₂ s t) {i : Nat} (hi : i ≠ 0) :
    s.storages[i]? = t.storages[i]? := by
  obtain ⟨x, y, rest, hs, ht, -⟩ := h.storages
  obtain ⟨n, rfl⟩ := Nat.exists_eq_succ_of_ne_zero hi
  rw [hs, ht, List.getElem?_cons_succ, List.getElem?_cons_succ]

/-- A handle looks at nothing on either side, or at stores that belong
together. -/
theorem store?_cases (h : Alike p b₁ b₂ s t) (k : Nat) :
    s.store? k = none ∧ t.store? k = none
      ∨ ∃ i scope u v, s.handle? k = some ⟨i, scope⟩ ∧ s.store? k = some u
          ∧ t.store? k = some v ∧ Store.Alike p b₁ b₂ i u v := by
  obtain ⟨x, y, rest, hs, ht, hwithin⟩ := h.storages
  unfold store?
  rw [← h.handle?_eq, hs, ht]
  cases hk : s.handle? k with
  | none => exact .inl ⟨rfl, rfl⟩
  | some a =>
    obtain ⟨i, scope⟩ := a
    cases i with
    | zero =>
      obtain ⟨q, rfl⟩ := h.leads k scope hk
      exact .inr ⟨0, p ++ q, ⟨x, p ++ q⟩, ⟨y, p ++ q⟩, rfl, rfl, rfl, .versions q rfl rfl hwithin⟩
    | succ i =>
      simp only [List.getElem?_cons_succ]
      cases rest[i]? with
      | none => exact .inl ⟨rfl, rfl⟩
      | some storage =>
        exact .inr ⟨i + 1, scope, ⟨storage, scope⟩, ⟨storage, scope⟩, rfl, rfl, rfl, .same⟩

theorem putBack (h : Alike p b₁ b₂ s t) {k i : Nat} {scope : String} {u v : Store}
    (hk : s.handle? k = some ⟨i, scope⟩) (hat : Store.Alike p b₁ b₂ i u v) :
    Alike p b₁ b₂ (s.putBack k u.storage) (t.putBack k v.storage) := by
  obtain ⟨x, y, rest, hs, ht, hwithin⟩ := h.storages
  rw [putBack_of_handle? hk, putBack_of_handle? (h.handle?_eq k ▸ hk)]
  refine { h with storages := ?_ }
  cases hat with
  | versions q _ _ hwithin =>
    exact ⟨u.storage, v.storage, rest, by rw [hs]; rfl, by rw [ht]; rfl, hwithin⟩
  | @same i =>
    exact ⟨x, y, rest.set i u.storage, by rw [hs]; rfl, by rw [ht]; rfl, hwithin⟩

theorem attach (h : Alike p b₁ b₂ s t) {a : Handle}
    (ha : ∀ scope, a = ⟨0, scope⟩ → Key.Leads p scope) :
    Alike p b₁ b₂ (s.attach a) (t.attach a) := by
  refine { h with handles := ?_, leads := fun k scope hk => ?_ }
  · rw [Session.attach, Session.attach, h.handles]
  · rw [handle?_attach] at hk
    split at hk
    · exact ha scope (Option.some.inj hk)
    · exact h.leads k scope hk

theorem adopt (h : Alike p b₁ b₂ s t) (store : Store) :
    Alike p b₁ b₂ (s.adopt store) (t.adopt store) := by
  have hpos := h.storages_pos
  refine { handles := ?_, storages := ?_, leads := fun k scope hk => ?_ }
  · rw [Session.adopt, Session.adopt, h.handles, h.storages_length]
  · obtain ⟨x, y, rest, hs, ht, hwithin⟩ := h.storages
    exact ⟨x, y, rest ++ [store.storage], by rw [Session.adopt, hs]; rfl,
      by rw [Session.adopt, ht]; rfl, hwithin⟩
  · rw [handle?_adopt] at hk
    split at hk
    · have hzero := congrArg Handle.storage (Option.some.inj hk)
      exact absurd hzero (Nat.ne_of_gt hpos)
    · exact h.leads k scope hk

theorem release (h : Alike p b₁ b₂ s t) (k : Nat) :
    Alike p b₁ b₂ (s.release k) (t.release k) := by
  refine { h with handles := ?_, leads := fun k' scope hk' => ?_ }
  · rw [Session.release, Session.release, h.handles]
  · rw [handle?_release] at hk'
    split at hk'
    · cases hk'
    · exact h.leads k' scope hk'

/-! ### One call on both sides -/

/-- Two steps with one answer, and sessions that are alike again. -/
def Steps (p : String) (b₁ b₂ : Storage) (x y : Step) : Prop :=
  x.answer = y.answer ∧ Alike p b₁ b₂ x.session y.session

theorem nextHandle_eq (h : Alike p b₁ b₂ s t) : s.nextHandle = t.nextHandle :=
  congrArg List.length h.handles

theorem steps_asking (h : Alike p b₁ b₂ s t) (k : Nat) {f g : Store → Answer}
    (hf : ∀ i u v, Store.Alike p b₁ b₂ i u v → f u = g v) :
    Steps p b₁ b₂ (s.asking k f) (t.asking k g) := by
  unfold asking
  rcases h.store?_cases k with ⟨hs, ht⟩ | ⟨i, scope, u, v, -, hs, ht, hat⟩
  · rw [hs, ht]
    exact ⟨rfl, h⟩
  · rw [hs, ht]
    exact ⟨hf i u v hat, h⟩

theorem steps_copy (h : Alike p b₁ b₂ s t) (k : Nat) (name : String) :
    Steps p b₁ b₂ (s.copy k name) (t.copy k name) := by
  unfold copy
  rcases h.store?_cases k with ⟨hs, ht⟩ | ⟨i, scope, u, v, -, hs, ht, hat⟩
  · rw [hs, ht]
    exact ⟨rfl, h⟩
  · rw [hs, ht]
    refine ⟨congrArg Answer.handle h.nextHandle_eq, ?_⟩
    dsimp only
    rw [hat.subblock_eq name]
    exact h.adopt _

theorem steps_view (h : Alike p b₁ b₂ s t) (k : Nat) (name : String) :
    Steps p b₁ b₂ (s.view k name) (t.view k name) := by
  unfold Session.view
  rw [← h.handle?_eq]
  cases hk : s.handle? k with
  | none => exact ⟨rfl, h⟩
  | some a =>
    refine ⟨congrArg Answer.handle h.nextHandle_eq, h.attach fun scope heq => ?_⟩
    obtain ⟨i, q⟩ := a
    cases heq
    obtain ⟨rest, rfl⟩ := h.leads k q hk
    exact ⟨rest ++ Key.scopeOf name, String.append_assoc ..⟩

theorem steps_editing (h : Alike p b₁ b₂ s t) (k : Nat)
    {f g : Store → Traced ConfigError (Answer × Store)}
    (hf : ∀ i u v, Store.Alike p b₁ b₂ i u v →
      Matched Eq (fun x y => x.1 = y.1 ∧ Store.Alike p b₁ b₂ i x.2 y.2) (f u).result (g v).result) :
    Steps p b₁ b₂ (s.editing k f) (t.editing k g) := by
  rcases h.store?_cases k with ⟨hs, ht⟩ | ⟨i, scope, u, v, hk, hs, ht, hat⟩
  · rw [editing_of_none hs, editing_of_none ht]
    exact ⟨rfl, h⟩
  · rcases (hf i u v hat).cases with ⟨e, e', hu, hv, he⟩ | ⟨x, y, hu, hv, heq, hnext⟩
    · rw [editing_of_error hs hu, editing_of_error ht hv]
      exact ⟨congrArg Answer.failed he, h⟩
    · rw [editing_of_ok hs hu, editing_of_ok ht hv]
      exact ⟨heq, h.putBack hk hnext⟩

theorem step (h : Alike p b₁ b₂ s t) (call : Call) :
    Steps p b₁ b₂ (s.step call) (t.step call) := by
  have hnext := h.nextHandle_eq
  cases call with
  | create => exact ⟨congrArg Answer.handle hnext, h.adopt .empty⟩
  | createFrom pairs =>
    simp only [Session.step]
    cases Store.ofEntries pairs with
    | mk events result =>
      cases result with
      | error e => exact ⟨rfl, h⟩
      | ok store => exact ⟨congrArg Answer.handle hnext, h.adopt store⟩
  | subblock k name => exact h.steps_copy k name
  | snapshot k => exact h.steps_copy k ""
  | view k name => exact h.steps_view k name
  | edit k e => exact h.steps_editing k fun i u v hat => hat.edit e
  | merge k source =>
    rcases h.store?_cases source with ⟨hs, ht⟩ | ⟨i, scope, given, given', -, hs, ht, hgiven⟩
    · rw [step_merge_of_none hs, step_merge_of_none ht]
      exact ⟨rfl, h⟩
    · rw [step_merge_of_some hs, step_merge_of_some ht]
      exact h.steps_editing k fun j u v hat => (hat.merge hgiven).map fun _ _ hr => ⟨rfl, hr⟩
  | ask k q => exact h.steps_asking k fun i u v hat => hat.answer_eq q
  | showsSame k other =>
    simp only [Session.step]
    rcases h.store?_cases other with ⟨hs, ht⟩ | ⟨i, scope, u, v, -, hs, ht, hshown⟩
    · rw [hs, ht]
      exact ⟨rfl, h⟩
    · rw [hs, ht]
      refine h.steps_asking k fun j u' v' hat => ?_
      rw [Store.showsSame, Store.showsSame, hat.entries_eq, hshown.entries_eq]
  | shares k other =>
    refine ⟨congrArg Answer.flag ?_, h⟩
    rw [shares, shares, h.handle?_eq, h.handle?_eq]
  | release k => exact ⟨rfl, h.release k⟩

theorem run (h : Alike p b₁ b₂ s t) (calls : List Call) :
    (s.run calls).2 = (t.run calls).2 ∧ Alike p b₁ b₂ (s.run calls).1 (t.run calls).1 := by
  induction calls generalizing s t with
  | nil => exact ⟨rfl, h⟩
  | cons call rest ih =>
    obtain ⟨hanswer, hnext⟩ := h.step call
    obtain ⟨hanswers, hlast⟩ := ih hnext
    refine ⟨?_, hlast⟩
    rw [Session.run, Session.run, hanswer, hanswers]

end Alike

end Session

/-! ## 4. Clients below one scope -/

namespace Client

/-- All that the client has are handles of one scope onto one storage, which
is `b` now. -/
structure Onto (c : Client) (i : Nat) (p : String) (b : Storage) : Prop where
  distinct : c.held.Nodup
  handles : ∀ n ∈ c.held, c.session.handle? n = some ⟨i, p⟩
  storage : c.session.storages[i]? = some b

/-- The session that such a client has for itself. -/
def ownSession (n : Nat) (p : String) (b : Storage) : Session :=
  { storages := [b], handles := List.replicate n (some ⟨0, p⟩) }

theorem handle?_ownSession {n k : Nat} {p : String} {b : Storage} :
    (ownSession n p b).handle? k = if k < n then some ⟨0, p⟩ else none := by
  rw [ownSession, Session.handle?, List.getElem?_replicate]
  split <;> rfl

theorem Onto.keeps {c : Client} {i : Nat} {p : String} {b : Storage} (h : c.Onto i p b) :
    c.Keeps [i] (ownSession c.held.length p b) where
  distinct := by simp
  storages_length := rfl
  storages i' j hi := by
    rw [List.getElem?_singleton] at hi
    split at hi
    · next hj =>
      obtain rfl := Option.some.inj hi
      rw [h.storage, hj]
      rfl
    · cases hi
  held_distinct := h.distinct
  held_length := by simp [ownSession, Session.nextHandle]
  bound n hn := Session.lt_nextHandle (h.handles n hn)
  alive k a hk := by
    rw [handle?_ownSession] at hk
    split at hk
    · next hlt =>
      obtain rfl := Option.some.inj hk
      rw [number_of_lt hlt]
      exact ⟨i, rfl, h.handles _ (List.getElem_mem hlt)⟩
    · cases hk
  gone k hk := by
    rw [handle?_ownSession] at hk
    split at hk
    · cases hk
    · next hge =>
      rw [number_of_ge (Nat.le_of_not_lt hge)]
      exact Session.handle?_nextHandle _

theorem alike_ownSession {p : String} {b₁ b₂ : Storage} (n : Nat)
    (hb : b₁.AgreeWhere (Key.Leads p) b₂) :
    Session.Alike p b₁ b₂ (ownSession n p b₁) (ownSession n p b₂) where
  handles := rfl
  storages := ⟨b₁, b₂, [], rfl, rfl, Storage.agreeWhere_leads_iff.1 hb, .refl _ b₁, .refl _ b₂⟩
  leads k scope hk := by
    rw [handle?_ownSession] at hk
    split at hk
    · cases hk
      exact ⟨"", String.append_empty.symm⟩
    · cases hk

/-- What two clients have, when one was given the storage `i`, which was `b₁`,
and the other the storage `j`, which was `b₂`. Their handles have the same
scopes. Below `p` the two storages agree, elsewhere they are what they
were, and every other storage of the one client is that of the other. -/
structure Agree (p : String) (i j : Nat) (b₁ b₂ : Storage) (c d : Client) : Prop where
  storage : ∃ x y, c.session.storages[i]? = some x ∧ d.session.storages[j]? = some y
    ∧ x.AgreeWhere (Key.Leads p) y ∧ b₁.AgreeWhere (fun key => ¬ Key.Leads p key) x
    ∧ b₂.AgreeWhere (fun key => ¬ Key.Leads p key) y
  handles : ∀ k, Option.Rel
    (fun a b => a.scope = b.scope ∧ (a.storage = i ↔ b.storage = j)
      ∧ (a.storage = i → Key.Leads p a.scope)
      ∧ (a.storage ≠ i → ∃ copy, c.session.storages[a.storage]? = some copy
          ∧ d.session.storages[b.storage]? = some copy))
    (c.handle? k) (d.handle? k)

theorem Agree.of_alike {p : String} {b₁ b₂ : Storage} {i j : Nat} {own own' : List Nat}
    {c d : Client} {l l' : Session} (hc : c.Keeps (i :: own) l) (hd : d.Keeps (j :: own') l')
    (h : Session.Alike p b₁ b₂ l l') : Agree p i j b₁ b₂ c d := by
  obtain ⟨x, y, rest, hx, hy, hwithin⟩ := h.storages
  constructor
  · refine ⟨x, y, ?_, ?_, Storage.agreeWhere_leads_iff.2 hwithin.inside, hwithin.left,
      hwithin.right⟩
    · rw [hc.storages i 0 rfl, hx]
      rfl
    · rw [hd.storages j 0 rfl, hy]
      rfl
  · intro k
    rw [Client.handle?, Client.handle?]
    cases hk : l.handle? k with
    | none =>
      rw [hc.gone k hk, hd.gone k (h.handle?_eq k ▸ hk)]
      exact .none
    | some a =>
      obtain ⟨i', hi', hci⟩ := hc.alive k a hk
      obtain ⟨j', hj', hdj⟩ := hd.alive k a (h.handle?_eq k ▸ hk)
      -- Both sides tell from the same place whether this is the storage they were given.
      have hi : i' = i ↔ a.storage = 0 := hc.place_eq_iff hi' rfl
      have hj : j' = j ↔ a.storage = 0 := hd.place_eq_iff hj' rfl
      rw [hci, hdj]
      refine .some ⟨rfl, hi.trans hj.symm, fun heq => ?_, fun hne => ?_⟩
      · exact h.leads k a.scope (hk.trans (by rw [← hi.1 heq]))
      · have hlt : a.storage < l.storages.length :=
          hc.storages_length ▸ (List.getElem?_eq_some_iff.1 hi').1
        have hcopy := List.getElem?_eq_getElem hlt
        refine ⟨_, (hc.storages i' _ hi').trans hcopy, ?_⟩
        rw [hd.storages j' _ hj', ← h.storages_eq (mt hi.2 hne), hcopy]

/-- Two clients whose handles have one scope, onto two storages that agree
below it: whatever they call, they are told the same, and they have the
same in the end. -/
theorem run_eq_of_agree {p : String} {b₁ b₂ : Storage} {i j : Nat} {c d : Client}
    (hc : c.Onto i p b₁) (hd : d.Onto j p b₂) (hlen : c.held.length = d.held.length)
    (hb : b₁.AgreeWhere (Key.Leads p) b₂) (calls : List Call) :
    (c.run calls).2 = (d.run calls).2
      ∧ Agree p i j b₁ b₂ (c.run calls).1 (d.run calls).1 := by
  obtain ⟨own, hanswers, hkeeps⟩ := hc.keeps.run calls
  obtain ⟨own', hanswers', hkeeps'⟩ := hd.keeps.run calls
  obtain ⟨hsame, halike⟩ := (alike_ownSession c.held.length hb).run calls
  rw [← hlen] at hanswers' hkeeps'
  refine ⟨?_, .of_alike hkeeps hkeeps' halike⟩
  rw [hanswers, hanswers', hsame]

/-- The block `block1` in two sessions: beside keys that come just before and
just after it, and below a key with its own name in the one, among others in
the other. -/
theorem run_beside_neighbours :
    let c : Client := ⟨(Session.run {} [.createFrom [("block1", "a"), ("block1:k", "1"),
      ("block1:z:z", "9"), ("block10", "b"), ("block1x:k", "2")], .view 0 "block1",
      .edit 0 (.lock "block1x:k")]).1, [1]⟩
    let d : Client := ⟨(Session.run {} [.create, .createFrom [("a", "1"), ("block1:k", "1"),
      ("block1:z:z", "9")], .release 0, .view 1 "", .view 2 "block1"]).1, [3]⟩
    let b₁ : Storage :=
      { entries := Table.empty.insertAll [("block1", "a"), ("block1:k", "1"),
          ("block1:z:z", "9"), ("block10", "b"), ("block1x:k", "2")]
        locks := Table.empty.insert "block1x:k" () }
    let b₂ : Storage :=
      { entries := Table.empty.insertAll [("a", "1"), ("block1:k", "1"), ("block1:z:z", "9")] }
    let calls : List Call := [.view 0 "z", .edit 0 (.set "x:" "3"), .edit 1 (.lock "y"),
      .merge 0 1, .snapshot 0, .merge 1 2, .edit 1 (.set "y" "4"), .ask 0 .entries, .ask 1 .block]
    c.Onto 0 "block1:" b₁ ∧ d.Onto 1 "block1:" b₂ ∧ b₁.AgreeWhere (Key.Leads "block1:") b₂
      ∧ (c.run calls).2 = [.handle 1, .failed (.invalidKey "block1:x:" .emptySegment), .done,
          .done, .handle 2, .done, .failed (.readOnly "block1:z:y" .set),
          .entries [("k", "1"), ("z", "9"), ("z:k", "1"), ("z:z", "9"), ("z:z:z", "9")],
          .block (some "block1:z")]
      ∧ (c.run calls).2 = (d.run calls).2
      ∧ Agree "block1:" 0 1 b₁ b₂ (c.run calls).1 (d.run calls).1 := by
  intro c d b₁ b₂ calls
  have hc : c.Onto 0 "block1:" b₁ := ⟨by decide, by decide, by decide⟩
  have hd : d.Onto 1 "block1:" b₂ := ⟨by decide, by decide, by decide⟩
  have hb : b₁.AgreeWhere (Key.Leads "block1:") b₂ := Storage.agreeWhere_leads_iff.2
    ⟨Table.mirrors_of_under_eq (by decide) (by decide),
      Table.mirrors_of_under_eq (by decide) (by decide)⟩
  exact ⟨hc, hd, hb, by decide, run_eq_of_agree hc hd rfl hb calls⟩

end Client

end BlockConfig
