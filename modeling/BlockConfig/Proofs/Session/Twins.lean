/-
BlockConfig.Proofs.Session.Twins — a copy of a block, and a view of it,
used alike.

A copy has the keys of the block without the scope, in a storage of its
own. A view has the full keys, in the storage of the origin. As long as
the two are used alike nobody can tell which is which, except by the scope
in front of the keys that errors report.

`Twins` is a session with handles in pairs, the first of each on the side
of the copy and the second on the side of the view. A run consists of
calls made on both handles of a pair and of other calls in between
(`Joint`). Three things are left out (`Twins.Allows`): questions about the
scope itself; merges from a source on one of the two storages; and other
calls that write to one of the storages or release a handle of a pair.

`Twins.told_of_fair` is the result: the two answers always belong together
(`Answer.Twin`), and copies taken from the handles of a pair are equal at
every point. What carries it is `Twins.Mirroring`. The storage of the copy
has below the empty scope what the other storage has below the scope of
the block, and the scopes of each pair differ by just that scope.
-/
import BlockConfig.Proofs.Session.KeysValid
import BlockConfig.Proofs.Session.Sharing
import BlockConfig.Proofs.Store.Mirror

namespace BlockConfig

/-! ## 1. Joint runs -/

/-- What can be called on a handle without regard to its scope. -/
inductive Method
  | edit (e : Edit)
  | ask (q : Query)
  | merge (source : Nat)
  | view (name : String)

def Method.on (h : Nat) : Method → Call
  | .edit e => .edit h e
  | .ask q => .ask h q
  | .merge source => .merge h source
  | .view name => .view h name

/-- What was called on both sides, and the answers on each. -/
structure Told where
  method : Method
  copy : Answer
  view : Answer

/-- A step of a joint run. -/
inductive Joint
  /-- On both handles of the pair with this number. -/
  | both (k : Nat) (m : Method)
  | other (call : Call)

/-- A session with handles on the side of a copy and on the side of a view,
in pairs. -/
structure Twins where
  session : Session
  pairs : List (Nat × Nat)

namespace Twins

/-- The pair of handles that two answers brought. -/
def born : Answer → Answer → List (Nat × Nat)
  | .handle n, .handle n' => [(n, n')]
  | _, _ => []

/-- A copy of a block of what a handle looks at, and a view of it. -/
def start (s : Session) (h : Nat) (name : String) : Twins :=
  let copied := s.step (.subblock h name)
  let viewed := copied.session.step (.view h name)
  ⟨viewed.session, born copied.answer viewed.answer⟩

/-- Call on one handle and then on the other. Views of both are a new
pair. -/
def both (w : Twins) (x y : Nat) (m : Method) : Twins × Told :=
  let first := w.session.step (m.on x)
  let second := first.session.step (m.on y)
  (⟨second.session, w.pairs ++ born first.answer second.answer⟩,
    ⟨m, first.answer, second.answer⟩)

def step (w : Twins) : Joint → Twins × List Told
  | .both k m =>
    match w.pairs[k]? with
    | none => (w, [])
    | some (x, y) => ((w.both x y m).1, [(w.both x y m).2])
  | .other call => (⟨(w.session.step call).session, w.pairs⟩, [])

def run (w : Twins) : List Joint → Twins × List Told
  | [] => (w, [])
  | joint :: rest =>
    let first := w.step joint
    let later := first.1.run rest
    (later.1, first.2 ++ later.2)

/-- The handle is not onto a storage of the pairs. -/
def Apart (w : Twins) (g : Nat) : Prop :=
  ∀ pair ∈ w.pairs, w.session.shares pair.1 g = false ∧ w.session.shares pair.2 g = false

instance (w : Twins) (g : Nat) : Decidable (w.Apart g) :=
  inferInstanceAs (Decidable (∀ pair ∈ w.pairs, _))

/-- What a joint run may do next. -/
def Allows (w : Twins) : Joint → Prop
  | .both _ (.edit _) | .both _ (.view _) => True
  | .both _ (.ask q) => q.Blind
  | .both _ (.merge source) => w.Apart source
  | .other call => (∀ g, call.writer? = some g → w.Apart g)
      ∧ ∀ pair ∈ w.pairs, call ≠ .release pair.1 ∧ call ≠ .release pair.2

/-- All steps are allowed, one after another. -/
def Fair (w : Twins) : List Joint → Prop
  | [] => True
  | joint :: rest => w.Allows joint ∧ (w.step joint).1.Fair rest

end Twins

/-! ## 2. Answers that belong together -/

/-- The answers of a copy and of the view with the scope `p`: the same, a
handle on both sides, or one refusal, with `p` in front of the key on the
side of the view. A malformed key has the same fault on both sides, unless
the caller gave the empty text. -/
inductive Answer.Twin (p : String) (m : Method) : Answer → Answer → Prop
  | same {answer : Answer} (h : answer.Plain) : Twin p m answer answer
  | handles (name : String) (hm : m = .view name) (n n' : Nat) : Twin p m (.handle n) (.handle n')
  | keyNotFound (key : String) :
      Twin p m (.failed (.keyNotFound key)) (.failed (.keyNotFound (p ++ key)))
  | readOnly (key : String) (attempt : Mutation) :
      Twin p m (.failed (.readOnly key attempt)) (.failed (.readOnly (p ++ key) attempt))
  | invalidKey (key : String) {f g : KeyFault}
      (hfg : f = g ∨ ∃ e : Edit, m = .edit e ∧ e.key = "") :
      Twin p m (.failed (.invalidKey key f)) (.failed (.invalidKey (p ++ key) g))

/-- A scope whose relative texts are keys when they are keys by themselves. -/
def Key.Opens (p : String) : Prop := p = "" ∨ ∃ key, Key.Valid key ∧ p = key ++ Key.separatorText

theorem Key.Opens.exists_name {p : String} (h : Key.Opens p) :
    ∃ name, p = Key.scopeOf name ∧ (name = "" ∨ Key.Valid name) := by
  rcases h with rfl | ⟨key, hkey, rfl⟩
  · exact ⟨"", Key.scopeOf_empty.symm, .inl rfl⟩
  · exact ⟨key, (Key.scopeOf_of_ne hkey.ne_empty).symm, .inr hkey⟩

theorem Key.Opens.interchangeable {p : String} (h : Key.Opens p) : Key.Interchangeable "" p := by
  obtain ⟨name, rfl, hname⟩ := h.exists_name
  intro key
  rw [String.empty_append, Key.valid_scopeOf_append]
  exact (and_iff_right hname).symm

theorem ConfigError.Mirrors.twin {p key : String} {m : Method} {e e' : ConfigError}
    (h : ConfigError.Mirrors "" p key e e')
    (hkey : key ≠ "" ∨ ∃ e : Edit, m = .edit e ∧ e.key = "") :
    Answer.Twin p m (.failed e) (.failed e') := by
  cases h with
  | keyNotFound =>
    rw [String.empty_append]
    exact .keyNotFound key
  | readOnly attempt =>
    rw [String.empty_append]
    exact .readOnly key attempt
  | invalidKey hf hg =>
    rw [String.empty_append] at hf ⊢
    refine .invalidKey key (hkey.imp_left fun hne => ?_)
    have hne' : p ++ key ≠ "" := by simp [hne]
    rw [Key.fault?_eq_emptySegment hf hne, Key.fault?_eq_emptySegment hg hne']

/-! ## 3. The two storages in step -/

namespace Twins

/-- Storage `i` is the copy, and the view is onto storage `j`. -/
structure Mirroring (w : Twins) (p : String) (i j : Nat) : Prop where
  ne : i ≠ j
  paired : w.pairs ≠ []
  storages : ∃ x y, w.session.storages[i]? = some x ∧ w.session.storages[j]? = some y
    ∧ x.Mirrors "" p y
  handles : ∀ pair ∈ w.pairs, ∃ q, w.session.handle? pair.1 = some ⟨i, q⟩
    ∧ w.session.handle? pair.2 = some ⟨j, p ++ q⟩

namespace Mirroring

variable {w : Twins} {p : String} {i j x y : Nat}

/-- What the handles of a pair look at. -/
theorem stores (h : w.Mirroring p i j) (hp : (x, y) ∈ w.pairs) :
    ∃ q s t, w.session.handle? x = some ⟨i, q⟩ ∧ w.session.handle? y = some ⟨j, p ++ q⟩
      ∧ w.session.store? x = some s ∧ w.session.store? y = some t
      ∧ Store.Mirrors "" p q s t := by
  obtain ⟨u, v, hu, hv, huv⟩ := h.storages
  obtain ⟨q, hx, hy⟩ := h.handles (x, y) hp
  exact ⟨q, ⟨u, q⟩, ⟨v, p ++ q⟩, hx, hy, Session.store?_of_handle? hx hu,
    Session.store?_of_handle? hy hv, String.empty_append.symm, rfl, huv⟩

/-- Storages that mirror one another are put back on both sides. -/
theorem putBack (h : w.Mirroring p i j) (hp : (x, y) ∈ w.pairs) {u v : Storage}
    (huv : u.Mirrors "" p v) :
    Mirroring ⟨(w.session.putBack x u).putBack y v, w.pairs⟩ p i j := by
  obtain ⟨u₀, v₀, hi, hj, -⟩ := h.storages
  obtain ⟨q, hx, hy⟩ := h.handles (x, y) hp
  rw [Session.putBack_of_handle? hx]
  have hy' : Session.handle? { w.session with storages := w.session.storages.set i u } y
      = some ⟨j, p ++ q⟩ := hy
  rw [Session.putBack_of_handle? hy']
  refine { h with storages := ⟨u, v, ?_, ?_, huv⟩ }
  · rw [List.getElem?_set_ne h.ne.symm, List.getElem?_set_self (List.getElem?_eq_some_iff.1 hi).1]
  · refine List.getElem?_set_self ?_
    rw [List.length_set]
    exact (List.getElem?_eq_some_iff.1 hj).1

/-- Views of both are a pair. -/
theorem attach (h : w.Mirroring p i j) (q : String) :
    Mirroring ⟨(w.session.attach ⟨i, q⟩).attach ⟨j, p ++ q⟩,
      w.pairs ++ [(w.session.nextHandle, w.session.nextHandle + 1)]⟩ p i j := by
  refine ⟨h.ne, by simp, h.storages, fun pair hpair => ?_⟩
  simp only [Session.handle?_attach, Session.nextHandle_attach]
  rcases List.mem_append.1 hpair with hpair | hpair
  · obtain ⟨q', hx, hy⟩ := h.handles pair hpair
    have hltx := Session.lt_nextHandle hx
    have hlty := Session.lt_nextHandle hy
    refine ⟨q', ?_, ?_⟩
    · rw [if_neg (by omega), if_neg (by omega), hx]
    · rw [if_neg (by omega), if_neg (by omega), hy]
  · obtain rfl := List.mem_singleton.1 hpair
    refine ⟨q, ?_, ?_⟩
    · rw [if_neg (by omega), if_pos rfl]
    · rw [if_pos rfl]

/-- A call apart from the pairs leaves both storages alone. -/
theorem other (h : w.Mirroring p i j) {call : Call} (ha : w.Allows (.other call)) :
    Mirroring ⟨(w.session.step call).session, w.pairs⟩ p i j := by
  have he := w.session.step_effect call
  obtain ⟨hwrites, hreleases⟩ := ha
  obtain ⟨u, v, hu, hv, huv⟩ := h.storages
  obtain ⟨pair, hpair⟩ := List.exists_mem_of_ne_nil _ h.paired
  obtain ⟨q, hx, hy⟩ := h.handles pair hpair
  -- A handle onto one of the storages shares it with a handle of this pair.
  refine ⟨h.ne, h.paired, ⟨u, v, ?_, ?_, huv⟩, fun pair hpair => ?_⟩
  · refine he.storage hu fun g a hg hga heq => ?_
    have hno := (hwrites g hg pair hpair).1
    rw [(Session.shares_eq_true_iff hx hga).2 heq.symm] at hno
    cases hno
  · refine he.storage hv fun g a hg hga heq => ?_
    have hno := (hwrites g hg pair hpair).2
    rw [(Session.shares_eq_true_iff hy hga).2 heq.symm] at hno
    cases hno
  · obtain ⟨q', hx', hy'⟩ := h.handles pair hpair
    obtain ⟨hrx, hry⟩ := hreleases pair hpair
    exact ⟨q', he.handle? hx' hrx, he.handle? hy' hry⟩

/-! ### Calls on both sides -/

/-- The answers of a call on both sides belong together, and the storages
are in step again. -/
def Keeps (w : Twins) (p : String) (i j x y : Nat) (m : Method) : Prop :=
  Answer.Twin p m (w.both x y m).2.copy (w.both x y m).2.view ∧ (w.both x y m).1.Mirroring p i j

/-- Calls that bring no new pair. -/
theorem keeps_of_steps {m : Method} {a b : Step} (hx : w.session.step (m.on x) = a)
    (hy : a.session.step (m.on y) = b) (htwin : Answer.Twin p m a.answer b.answer)
    (hh : ∀ n, a.answer ≠ .handle n) (hkeeps : Mirroring ⟨b.session, w.pairs⟩ p i j) :
    Keeps w p i j x y m := by
  have hborn : born a.answer b.answer = [] := by
    cases ha : a.answer with
    | handle n => exact absurd ha (hh n)
    | _ => rfl
  rw [Keeps, both]
  dsimp only
  rw [hx, hy, hborn, List.append_nil]
  exact ⟨htwin, hkeeps⟩

theorem keeps_ask (h : w.Mirroring p i j) (hp : (x, y) ∈ w.pairs) {q : Query} (hq : q.Blind) :
    Keeps w p i j x y (.ask q) := by
  obtain ⟨scope, s, t, -, -, hs, ht, hm⟩ := h.stores hp
  refine keeps_of_steps (Session.step_ask hs q) (Session.step_ask ht q) ?_ (s.answer_ne_handle q) h
  rcases hm.answer hq with ⟨heq, hplain⟩ | ⟨key, hkeyx, hkeyy⟩
  · rw [← heq]
    exact .same hplain
  · rw [hkeyx, hkeyy, String.empty_append]
    exact .keyNotFound key

theorem keeps_view (h : w.Mirroring p i j) (hp : (x, y) ∈ w.pairs) (name : String) :
    Keeps w p i j x y (.view name) := by
  obtain ⟨scope, hx, hy⟩ := h.handles (x, y) hp
  have hy' : (w.session.attach ⟨i, scope ++ Key.scopeOf name⟩).handle? y
      = some ⟨j, p ++ scope⟩ := by
    rw [Session.handle?_attach, if_neg (Nat.ne_of_lt (Session.lt_nextHandle hy)), hy]
  have hfirst := Session.view_of_handle? hx name
  have hsecond := Session.view_of_handle? hy' name
  simp only [Handle.view, String.append_assoc] at hfirst hsecond
  simp only [Keeps, both, Method.on, Session.step, hfirst, hsecond]
  refine ⟨.handles name rfl _ _, ?_⟩
  simpa only [born, Session.nextHandle_attach] using h.attach (scope ++ Key.scopeOf name)

/-- A change on both sides. What is put back on the side of the copy is not
seen on the side of the view. -/
theorem keeps_editing (h : w.Mirroring p i j) (hp : (x, y) ∈ w.pairs) {m : Method}
    {f : Store → Traced ConfigError (Answer × Store)}
    (hx : w.session.step (m.on x) = w.session.editing x f)
    (hy : w.session.step (m.on y) = w.session.editing y f)
    (hlater : ∀ u, (w.session.putBack x u).step (m.on y) = (w.session.putBack x u).editing y f)
    (hf : ∀ q s t, Store.Mirrors "" p q s t →
      Matched (fun e e' => Answer.Twin p m (.failed e) (.failed e'))
        (fun u v => (u.1 = v.1 ∧ Store.Mirrors "" p q u.2 v.2) ∧ u.1.Plain)
        (f s).result (f t).result) :
    Keeps w p i j x y m := by
  obtain ⟨q, s, t, hxi, hyj, hs, ht, hm⟩ := h.stores hp
  rcases (hf q s t hm).cases with ⟨e, e', hu, hv, he⟩ | ⟨u, v, hu, hv, ⟨heq, hm⟩, hplain⟩
  · rw [Session.editing_of_error hs hu] at hx
    rw [Session.editing_of_error ht hv] at hy
    exact keeps_of_steps hx hy he (fun n hn => by cases hn) h
  · have hlater := hlater u.2.storage
    rw [← Session.store?_putBack_of_ne hxi hyj h.ne u.2.storage] at ht
    rw [Session.editing_of_ok hs hu] at hx
    rw [Session.editing_of_ok ht hv] at hlater
    refine keeps_of_steps hx hlater ?_ hplain.ne_handle (h.putBack hp hm.storage)
    dsimp only
    rw [← heq]
    exact .same hplain

theorem keeps_edit (h : w.Mirroring p i j) (hab : Key.Interchangeable "" p)
    (hp : (x, y) ∈ w.pairs) (e : Edit) : Keeps w p i j x y (.edit e) := by
  refine h.keeps_editing hp rfl rfl (fun _ => rfl) fun q s t hm => ?_
  rcases (hm.edit hab e).cases with ⟨err, err', hu, hv, he⟩ | ⟨u, v, hu, hv, hr⟩
  · rw [hu, hv]
    refine .error (he.twin ?_)
    -- Below the whole the empty text is empty, below a block it is the scope.
    by_cases hkey : e.key = ""
    · exact .inr ⟨e, rfl, hkey⟩
    · exact .inl (by simp [hkey])
  · rw [hu, hv]
    exact .ok ⟨hr, (Store.outcome_of_edit hu).1⟩

theorem keeps_merge (h : w.Mirroring p i j) (hab : Key.Interchangeable "" p)
    (hp : (x, y) ∈ w.pairs) {source : Nat} (hsource : w.Apart source) :
    Keeps w p i j x y (.merge source) := by
  cases hg : w.session.store? source with
  | none =>
    exact keeps_of_steps (Session.step_merge_of_none hg x) (Session.step_merge_of_none hg y)
      (.same trivial) (fun n hn => by cases hn) h
  | some given =>
    obtain ⟨q, hxi, -⟩ := h.handles (x, y) hp
    obtain ⟨k, hk, -⟩ := Session.store?_eq_some_iff.1 hg
    have hne : i ≠ k := fun heq => by
      have hno := (hsource (x, y) hp).1
      rw [(Session.shares_eq_true_iff hxi hk).2 heq] at hno
      cases hno
    -- The second merge looks the source up in the session that the first one left.
    have hlater : ∀ u, (w.session.putBack x u).store? source = some given := fun u => by
      rw [Session.store?_putBack_of_ne hxi hk hne, hg]
    refine h.keeps_editing hp (Session.step_merge_of_some hg x) (Session.step_merge_of_some hg y)
      (fun u => Session.step_merge_of_some (hlater u) y) fun q s t hm => ?_
    refine (hm.merge hab (rfl : given.entries = given.entries)).mapBoth (fun e e' he => ?_)
      fun u v hr => ⟨⟨rfl, hr⟩, trivial⟩
    obtain ⟨key, hkey, he⟩ := he
    exact he.twin (.inl (by simp [Store.ne_empty_of_mem_keys hkey]))

/-- One call on both handles of a pair. -/
theorem keeps_both (h : w.Mirroring p i j) (hab : Key.Interchangeable "" p)
    (hp : (x, y) ∈ w.pairs) {k : Nat} {m : Method} (ha : w.Allows (.both k m)) :
    Keeps w p i j x y m := by
  cases m with
  | edit e => exact h.keeps_edit hab hp e
  | ask q => exact h.keeps_ask hp ha
  | merge source => exact h.keeps_merge hab hp ha
  | view name => exact h.keeps_view hp name

theorem step (h : w.Mirroring p i j) (hab : Key.Interchangeable "" p) {joint : Joint}
    (ha : w.Allows joint) :
    (∀ told ∈ (w.step joint).2, Answer.Twin p told.method told.copy told.view)
      ∧ (w.step joint).1.Mirroring p i j := by
  cases joint with
  | other call => exact ⟨fun told hm => absurd hm List.not_mem_nil, h.other ha⟩
  | both k m =>
    rw [Twins.step]
    cases hk : w.pairs[k]? with
    | none => exact ⟨fun told hm => absurd hm List.not_mem_nil, h⟩
    | some pair =>
      obtain ⟨htwin, hnext⟩ := h.keeps_both hab (List.mem_of_getElem? hk) ha
      refine ⟨fun told hm => ?_, hnext⟩
      obtain rfl := List.mem_singleton.1 hm
      exact htwin

theorem run (h : w.Mirroring p i j) (hab : Key.Interchangeable "" p) {joints : List Joint}
    (hfair : w.Fair joints) :
    (∀ told ∈ (w.run joints).2, Answer.Twin p told.method told.copy told.view)
      ∧ (w.run joints).1.Mirroring p i j := by
  induction joints generalizing w with
  | nil => exact ⟨fun told hm => absurd hm List.not_mem_nil, h⟩
  | cons joint rest ih =>
    obtain ⟨hallowed, hrest⟩ := hfair
    obtain ⟨htold, hnext⟩ := h.step hab hallowed
    obtain ⟨htolds, hlast⟩ := ih hnext hrest
    refine ⟨fun told hm => ?_, hlast⟩
    rcases List.mem_append.1 hm with hm | hm
    · exact htold told hm
    · exact htolds told hm

end Mirroring

/-! ## 4. From the copy and the view on -/

/-- The copy has a storage of its own, and the view is onto that of the
origin. -/
theorem start_eq {s : Session} {h i : Nat} {store : Store}
    (hh : s.handle? h = some ⟨i, store.scope⟩) (hi : s.storages[i]? = some store.storage)
    (name : String) :
    start s h name = ⟨(s.adopt (store.subblock name)).attach ⟨i, store.scope ++ Key.scopeOf name⟩,
      [(s.nextHandle, s.nextHandle + 1)]⟩ := by
  have hcopy := Session.copy_of_store? (Session.store?_of_handle? hh hi) name
  have hh' : (s.adopt (store.subblock name)).handle? h = some ⟨i, store.scope⟩ :=
    Session.handle?_adopt_of_some hh _
  simp only [start, Session.step, hcopy, Session.view_of_handle? hh' name, born, Handle.view,
    Session.nextHandle_adopt]

/-- Right after it was taken, the copy mirrors the view. -/
theorem mirroring_start {s : Session} (hr : s.Reachable) {h i : Nat} {store : Store}
    (hh : s.handle? h = some ⟨i, store.scope⟩) (hi : s.storages[i]? = some store.storage)
    (name : String) :
    (start s h name).Mirroring (store.scope ++ Key.scopeOf name) s.storages.length i := by
  have hlt := (List.getElem?_eq_some_iff.1 hi).1
  have hmirrors := (Session.wellFormed_of_reachable hr).mirrors_subblock
    (Session.store?_of_handle? hh hi) name
  rw [start_eq hh hi]
  refine ⟨by omega, by simp, ⟨_, _, ?_, ?_, hmirrors⟩, fun pair hpair => ?_⟩
  · exact List.getElem?_concat_length
  · exact (List.getElem?_append_left hlt).trans hi
  · obtain rfl := List.mem_singleton.1 hpair
    refine ⟨"", ?_, ?_⟩
    · rw [Session.handle?_attach, Session.nextHandle_adopt, if_neg (by omega),
        Session.handle?_adopt, if_pos rfl]
      rfl
    · rw [Session.handle?_attach, Session.nextHandle_adopt, if_pos rfl, String.append_empty]

/-- The handles of each pair are there, and whatever block is copied from
both, the copies hold the same. -/
def CopiesAgree (w : Twins) : Prop :=
  ∀ pair ∈ w.pairs, ∃ s t, w.session.store? pair.1 = some s ∧ w.session.store? pair.2 = some t
    ∧ ∀ name, (s.subblock name).storage = (t.subblock name).storage

theorem Mirroring.copiesAgree {w : Twins} {p : String} {i j : Nat} (h : w.Mirroring p i j) :
    w.CopiesAgree := by
  intro pair hpair
  obtain ⟨q, s, t, -, -, hs, ht, hm⟩ := h.stores hpair
  exact ⟨s, t, hs, ht, fun name => by rw [hm.subblock_eq name]⟩

/-- A copy of a block and a view of it, in a session that calls lead to:
whatever is called on both and on what is derived from both, the answers
belong together, and what both sides hold is the same. -/
theorem told_of_fair {s : Session} (hr : s.Reachable) {h : Nat} {store : Store}
    (hs : s.store? h = some store) {name : String}
    (hp : Key.Opens (store.scope ++ Key.scopeOf name)) {joints : List Joint}
    (hfair : (start s h name).Fair joints) :
    (start s h name).pairs = [(s.nextHandle, s.nextHandle + 1)]
      ∧ (∀ told ∈ ((start s h name).run joints).2,
          Answer.Twin (store.scope ++ Key.scopeOf name) told.method told.copy told.view)
      ∧ ((start s h name).run joints).1.CopiesAgree := by
  obtain ⟨i, hh, hi⟩ := Session.store?_eq_some_iff.1 hs
  obtain ⟨htold, hlast⟩ := (mirroring_start hr hh hi name).run hp.interchangeable hfair
  exact ⟨by rw [start_eq hh hi], htold, hlast.copiesAgree⟩

/-- The block `b` of the block `a`, with a lock on a key without a value,
beside keys with `a:b` in front that are not in the block. -/
theorem told_of_nested_block :
    let s := (Session.run {} [.createFrom [("a:b", "x"), ("a:b:k", "1"), ("a:bb", "y"),
      ("c", "2")], .edit 0 (.lock "a:b:z"), .view 0 "a"]).1
    let store : Store := ⟨⟨.ofList [("a:b", "x"), ("a:b:k", "1"), ("a:bb", "y"), ("c", "2")],
      .ofList [("a:b:z", ())]⟩, "a:"⟩
    let joints : List Joint := [.both 0 (.view "k"), .both 0 (.edit (.set "" "3")),
      .other (.createFrom [("w", "4"), ("z", "5")]), .both 1 (.merge 6), .both 0 (.merge 6),
      .both 1 (.edit (.unset "y")), .both 0 (.ask .entries)]
    let w := start s 1 "b"
    s.Reachable ∧ s.store? 1 = some store ∧ Key.Opens (store.scope ++ Key.scopeOf "b")
      ∧ w.Fair joints ∧ w.pairs = [(2, 3)]
      ∧ ((w.run joints).2.map fun told => (told.copy, told.view))
        = [(.handle 4, .handle 5),
          (.failed (.invalidKey "" .empty), .failed (.invalidKey "a:b:" .emptySegment)),
          (.done, .done),
          (.failed (.readOnly "z" .set), .failed (.readOnly "a:b:z" .set)),
          (.failed (.keyNotFound "k:y"), .failed (.keyNotFound "a:b:k:y")),
          (.entries [("k", "1"), ("k:w", "4"), ("k:z", "5")],
            .entries [("k", "1"), ("k:w", "4"), ("k:z", "5")])]
      ∧ (∀ told ∈ (w.run joints).2,
          Answer.Twin (store.scope ++ Key.scopeOf "b") told.method told.copy told.view)
      ∧ (w.run joints).1.CopiesAgree := by
  intro s store joints w
  have hr : s.Reachable := ⟨_, rfl⟩
  have hs : s.store? 1 = some store := by decide
  have hp : Key.Opens (store.scope ++ Key.scopeOf "b") := .inr ⟨"a:b", by decide, by decide⟩
  have hfair : w.Fair joints := by
    refine ⟨trivial, trivial, ⟨fun g hg => ?_, fun pair _ => ⟨?_, ?_⟩⟩, ?_, ?_, trivial,
      trivial, trivial⟩
    · cases hg
    · intro hcall
      cases hcall
    · intro hcall
      cases hcall
    · show Apart _ 6
      decide
    · show Apart _ 6
      decide
  obtain ⟨hpairs, htold, hcopies⟩ := told_of_fair hr hs hp hfair
  exact ⟨hr, hs, hp, hfair, hpairs, by decide, htold, hcopies⟩

end Twins

end BlockConfig
