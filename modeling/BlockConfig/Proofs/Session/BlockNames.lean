/-
BlockConfig.Proofs.Session.BlockNames — what the name of a block decides.

Making a view examines no name. So a view may be made of a block whose
name is no key, and nothing is refused until the view is used. Then it
turns out to be inert (`Inert`): it shows nothing, whatever is in the
storage and whatever others put there later; every key that is read or
unset is absent; every key that is set or locked is malformed. Views made
from it, by whatever names, are no better.

If on the other hand all names on the way are empty or keys, then a key is
refused for its own faults only (`Unspoilt`), and a merge, which writes
keys that are shown somewhere, is never refused as malformed.

Two facts carry this. A chain of views leads to the scope of its names one
inside the other (`Gave.scope_of_chain`), and such a name is sound exactly
when all its parts are (`Key.sound_pathOf`). And no storage holds a
malformed key (`wellFormed_of_reachable`), so below a scope where no text
is a key a storage is like the empty one (`KeysValid.mirrors_empty`).
-/
import BlockConfig.Proofs.Session.Chains
import BlockConfig.Proofs.Session.KeysValid
import BlockConfig.Proofs.Session.Merge
import BlockConfig.Proofs.Store.Mirror

namespace BlockConfig

/-! ## 1. Malformed keys in a storage -/

/-- What an edit meets at a text that is no key. -/
def Edit.refusal (full : String) (fault : KeyFault) : Edit → ConfigError
  | .set .. | .insert .. | .lock _ => .invalidKey full fault
  | .unset _ | .remove _ => .keyNotFound full

namespace Storage

variable {s : Storage} {key : String} {fault : KeyFault}

/-- Below a scope where no text is a key, a storage that holds keys only is
like the empty one. -/
theorem KeysValid.mirrors_empty (hs : s.KeysValid) {scope : String}
    (hscope : ∀ key, ¬ Key.Valid (scope ++ key)) : s.Mirrors scope scope {} :=
  ⟨fun key => (hs.absent (hscope key)).1, fun key => (hs.absent (hscope key)).2⟩

/-- An edit at a text that is no key. -/
theorem edit_of_fault? (hs : s.KeysValid) {scope : String} (e : Edit)
    (h : Key.fault? (scope ++ e.key) = some fault) :
    s.edit scope e = .error (e.refusal (scope ++ e.key) fault) := by
  have hkey : ¬ Key.Valid (scope ++ e.key) := by simp [Key.Valid, h]
  obtain ⟨hentry, hlock⟩ := hs.absent hkey
  cases e with
  | set key value | insert key value =>
    simp only [Edit.key] at h
    rw [edit, set, checkSet_of_fault? h]
    rfl
  | unset key | remove key =>
    simp only [Edit.key] at hentry hlock
    have hunlocked : s.isLocked (scope ++ key) = false := congrArg Option.isSome hlock
    rw [edit, unset, hunlocked, hentry]
    rfl
  | lock key =>
    simp only [Edit.key] at h
    rw [edit, lock_of_fault? h]
    rfl

/-- An edit at a key is never refused as malformed. -/
theorem edit_ne_invalidKey {scope : String} {e : Edit} (hkey : Key.Valid (scope ++ e.key))
    (k : String) : s.edit scope e ≠ .error (.invalidKey k fault) := by
  intro h
  cases e with
  | set key value | insert key value =>
    simp only [Edit.key] at hkey
    rw [edit, set, checkSet_of_valid hkey] at h
    cases hl : s.isLocked (scope ++ key) <;> simp [hl, Except.map] at h
  | unset key | remove key =>
    rw [edit, unset] at h
    cases hl : s.isLocked (scope ++ key) <;> cases he : s.entries.get? (scope ++ key) <;>
      simp [hl, he, Except.map] at h
  | lock key =>
    simp only [Edit.key] at hkey
    simp [edit, lock, Key.check_eq_ok_iff.2 hkey, Except.map] at h

end Storage

namespace Store

variable {s given : Store}

/-- When nothing comes in, a merge writes nothing. -/
theorem setAll_incoming_of_nil (h : given.keys = []) :
    s.storage.setAll (s.incoming given) = .ok s.storage := by
  have hincoming : s.incoming given = [] := by
    have hfst := s.keys_incoming given
    rw [h] at hfst
    simpa using hfst
  rw [hincoming]
  rfl

/-- Where no text is a key a merge is refused for the least incoming key. -/
theorem setAll_incoming_of_fault? {fault : KeyFault}
    (hfault : ∀ key, Key.fault? (s.scope ++ key) = some fault) (h : given.keys ≠ []) :
    ∃ key ∈ given.keys, (∀ other ∈ given.keys, ¬ other < key)
      ∧ s.storage.setAll (s.incoming given) = .error (.invalidKey (s.scope ++ key) fault) := by
  cases hlist : given.entries.toList with
  | nil => exact absurd (by rw [keys, Table.keys, hlist, List.map_nil]) h
  | cons pair rest =>
    have hkeys : given.keys = pair.1 :: rest.map Prod.fst := by
      rw [keys, Table.keys, hlist, List.map_cons]
    -- The list ascends, so its head is the least.
    have hsorted := given.entries.sorted
    rw [hlist] at hsorted
    obtain ⟨hfirst, -⟩ := List.pairwise_cons.1 hsorted
    refine ⟨pair.1, by simp [hkeys], fun other ho => ?_, ?_⟩
    · rw [hkeys] at ho
      rcases List.mem_cons.1 ho with rfl | ho
      · exact String.lt_irrefl _
      · obtain ⟨q, hq, rfl⟩ := List.mem_map.1 ho
        exact fun hlt => String.lt_irrefl _ (String.lt_trans (hfirst q hq) hlt)
    · rw [Storage.setAll, incoming, hlist, List.map_cons,
        Storage.checkSetAll_cons_of_fault? (hfault pair.1)]
      rfl

end Store

/-! ## 2. Handles below a bad name -/

namespace Session

/-- Through the handle nothing is shown, and nothing can be put below its
scope. -/
structure Inert (s : Session) (v : Nat) (scope : String) : Prop where
  keys : (s.step (.ask v .keys)).answer = .keys []
  entries : (s.step (.ask v .entries)).answer = .entries []
  has : ∀ key, (s.step (.ask v (.has key))).answer = .flag false
  isReadOnly : ∀ key, (s.step (.ask v (.isReadOnly key))).answer = .flag false
  get : ∀ key, (s.step (.ask v (.get key))).answer = .failed (.keyNotFound (scope ++ key))
  unset : ∀ key,
    (s.step (.edit v (.unset key))).answer = .failed (.keyNotFound (scope ++ key))
  set : ∀ key value, (s.step (.edit v (.set key value))).answer
    = .failed (.invalidKey (scope ++ key) .emptySegment)
  lock : ∀ key,
    (s.step (.edit v (.lock key))).answer = .failed (.invalidKey (scope ++ key) .emptySegment)
  /-- A merge of nothing is done, and does nothing. -/
  mergeNothing : ∀ source given, s.store? source = some given → given.keys = [] →
    (s.step (.merge v source)).answer = .done ∧ (s.step (.merge v source)).session = s
  /-- Any other merge is refused for the least of the incoming keys. -/
  mergeSome : ∀ source given, s.store? source = some given → given.keys ≠ [] →
    ∃ key ∈ given.keys, (∀ other ∈ given.keys, ¬ other < key)
      ∧ (s.step (.merge v source)).answer = .failed (.invalidKey (scope ++ key) .emptySegment)
  subblock : ∀ name, (s.step (.subblock v name)).answer = .handle s.nextHandle
    ∧ (s.step (.subblock v name)).session.store? s.nextHandle = some ⟨{}, ""⟩

variable {s : Session} {v : Nat} {store : Store}

theorem WellFormed.inert (hw : s.WellFormed) (hs : s.store? v = some store) {name : String}
    (hscope : store.scope = Key.scopeOf name) (hname : ¬ Key.Sound name) :
    s.Inert v store.scope := by
  have hkeys := hw.keysValid_of_store? hs
  have hfault : ∀ key, Key.fault? (store.scope ++ key) = some .emptySegment := by
    intro key
    rw [hscope]
    exact Key.fault?_below hname key
  have hmirrors : Store.Mirrors store.scope store.scope "" store ⟨{}, store.scope⟩ :=
    ⟨String.append_empty.symm, String.append_empty.symm,
      hkeys.mirrors_empty fun key => by simp [Key.Valid, hfault key]⟩
  -- Questions are answered, and blocks copied, as of an empty storage.
  have hask : ∀ q, (s.step (.ask v q)).answer = Store.answer ⟨{}, store.scope⟩ q := by
    intro q
    rw [answer_ask hs, hmirrors.answer_eq]
  have hedit : ∀ e : Edit, (s.step (.edit v e)).answer
      = .failed (e.refusal (store.scope ++ e.key) .emptySegment) := fun e =>
    (step_edit_of_error hs (Storage.edit_of_fault? hkeys e (hfault e.key))).2
  constructor
  case keys => exact hask .keys
  case entries => exact hask .entries
  case has => exact fun key => hask (.has key)
  case isReadOnly => exact fun key => hask (.isReadOnly key)
  case get => exact fun key => hask (.get key)
  case unset => exact fun key => hedit (.unset key)
  case set => exact fun key value => hedit (.set key value)
  case lock => exact fun key => hedit (.lock key)
  case mergeNothing =>
    intro source given hg hnothing
    obtain ⟨hsession, hdone⟩ := step_merge_of_ok hs hg (Store.setAll_incoming_of_nil hnothing)
    exact ⟨hdone, hsession.trans (putBack_self hs)⟩
  case mergeSome =>
    intro source given hg hsome
    obtain ⟨key, hmem, hleast, hrefused⟩ := Store.setAll_incoming_of_fault? hfault hsome
    exact ⟨key, hmem, hleast, (step_merge_of_error hs hg hrefused).2⟩
  case subblock =>
    intro name
    have hcopy : store.subblock name = ⟨{}, ""⟩ := by
      rw [hmirrors.subblock_eq name]
      rfl
    rw [step, copy_of_store? hs, hcopy]
    exact ⟨rfl, s.store?_adopt _⟩

/-! ## 3. Handles below good names -/

/-- Through the handle a key is refused as malformed for its own faults only,
and a merge never. -/
structure Unspoilt (s : Session) (v : Nat) : Prop where
  merge : ∀ source key fault, (s.step (.merge v source)).answer ≠ .failed (.invalidKey key fault)
  set : ∀ key value, (∃ k fault, (s.step (.edit v (.set key value))).answer
    = .failed (.invalidKey k fault)) ↔ ¬ Key.Valid key
  lock : ∀ key, (∃ k fault, (s.step (.edit v (.lock key))).answer
    = .failed (.invalidKey k fault)) ↔ ¬ Key.Valid key

theorem answer_edit_eq_failed_iff (hs : s.store? v = some store) {e : Edit} {err : ConfigError} :
    (s.step (.edit v e)).answer = .failed err ↔ store.storage.edit store.scope e = .error err := by
  cases he : store.storage.edit store.scope e with
  | error err' => simp [(step_edit_of_error hs he).2]
  | ok p => simp [(step_edit_of_ok hs he).2, (Storage.answer_of_edit he).ne_failed err]

theorem WellFormed.unspoilt (hw : s.WellFormed) (hs : s.store? v = some store) {name : String}
    (hscope : store.scope = Key.scopeOf name) (hname : Key.Sound name) : s.Unspoilt v := by
  have hvalid : ∀ key, Key.Valid (store.scope ++ key) ↔ Key.Valid key := by
    intro key
    rw [hscope, Key.valid_scopeOf_append]
    exact and_iff_right hname
  have hedit : ∀ e : Edit, (∀ full fault, e.refusal full fault = .invalidKey full fault) →
      ((∃ k fault, (s.step (.edit v e)).answer = .failed (.invalidKey k fault))
        ↔ ¬ Key.Valid e.key) := by
    intro e he
    simp only [answer_edit_eq_failed_iff hs, ← hvalid e.key]
    constructor
    · rintro ⟨k, fault, h⟩ hkey
      exact Storage.edit_ne_invalidKey hkey k h
    · intro hkey
      have herr := Storage.edit_of_fault? (hw.keysValid_of_store? hs) e
        (Key.fault?_of_not_valid hkey)
      exact ⟨_, _, herr.trans (congrArg Except.error (he _ _))⟩
  refine ⟨fun source key fault h => ?_, fun key value => hedit (.set key value) fun _ _ => rfl,
    fun key => hedit (.lock key) fun _ _ => rfl⟩
  cases hg : s.store? source with
  | none =>
    rw [step_merge_of_none hg] at h
    cases h
  | some given =>
    -- All incoming keys are keys below the receiver too, so only a lock can be in the way.
    have hkeys : ∀ k ∈ (store.incoming given).map Prod.fst, Key.Valid k := by
      rw [Store.keys_incoming]
      exact List.forall_mem_map.2 fun k hk => (hvalid k).2 (hw.valid_of_mem_keys hg hk)
    cases hall : store.storage.setAll (store.incoming given) with
    | ok next =>
      rw [(step_merge_of_ok hs hg hall).2] at h
      cases h
    | error err =>
      rw [(step_merge_of_error hs hg hall).2] at h
      rw [Storage.setAll_of_valid hkeys, Answer.failed.inj h] at hall
      split at hall <;> cases hall

/-! ## 4. What is decided by names -/

/-- After any calls: a handle that was made by a chain of views is inert if
one of the names is not empty and has an empty segment. If all names from
the root on are empty or keys, the handle refuses malformed keys and nothing
else as malformed. -/
theorem names_decide (calls : List Call) :
    let s := (Session.run {} calls).1
    let past := history {} calls
    (∀ h name m names v store, (Call.view h name, Answer.handle m) ∈ past →
      name ≠ "" → "" ∈ Key.segments name → ViewChain past m names v →
      s.store? v = some store → s.Inert v store.scope)
    ∧ ∀ root names v store, Founded past root → ViewChain past root names v →
        (∀ name ∈ names, name = "" ∨ Key.Valid name) →
        s.store? v = some store → s.Unspoilt v := by
  intro s past
  have hw : s.WellFormed := wellFormed_of_reachable ⟨calls, rfl⟩
  obtain ⟨given, hgave⟩ := gave_of_run calls
  have hscope : ∀ root names v store, Founded past root → ViewChain past root names v →
      s.store? v = some store → store.scope = Key.scopeOf (Key.pathOf names) := by
    intro root names v store hroot hchain hs
    obtain ⟨i, hv, -⟩ := store?_eq_some_iff.1 hs
    exact hgave.scope_of_chain hroot hchain hv
  constructor
  · intro h name m names v store hview hne hempty hchain hs
    -- The chain is continued back to a root, and one bad name spoils all of it.
    obtain ⟨a, hh, -⟩ := hgave.viewed h name m hview
    obtain ⟨root, outer, hroot, hbefore⟩ := hgave.rooted h (List.getElem?_eq_some_iff.1 hh).1
    refine hw.inert hs (hscope root _ v store hroot (hbefore.trans (.cons hview hchain)) hs) ?_
    intro hsound
    exact Key.not_sound_iff.2 ⟨hne, hempty⟩ (Key.sound_pathOf.1 hsound name (by simp))
  · intro root names v store hroot hchain hnames hs
    exact hw.unspoilt hs (hscope root names v store hroot hchain hs) (Key.sound_pathOf.2 hnames)

/-- Handle 2 is the block `c` of the malformed block `b:`, where the whole
has the neighbouring key `b:c:k`; handle 4 is a block with a good name, by
way of the whole. -/
theorem names_decide_below_malformed :
    let calls : List Call := [.createFrom [("b:c:k", "1"), ("k", "2")], .view 0 "b:", .view 1 "c",
      .view 0 "", .view 3 "b:c"]
    let s := (Session.run {} calls).1
    s.Inert 2 "b::c:" ∧ s.Unspoilt 4 := by
  intro calls s
  have hroot : Founded (history {} calls) 0 :=
    ⟨.createFrom [("b:c:k", "1"), ("k", "2")], trivial, List.mem_of_getElem? (i := 0) rfl⟩
  have hbad : (Call.view 0 "b:", Answer.handle 1) ∈ history {} calls :=
    List.mem_of_getElem? (i := 1) rfl
  have hbelow : ViewChain (history {} calls) 1 ["c"] 2 :=
    .single (List.mem_of_getElem? (i := 2) rfl)
  have hgood : ViewChain (history {} calls) 0 ["", "b:c"] 4 :=
    .cons (List.mem_of_getElem? (i := 3) rfl) (.single (List.mem_of_getElem? (i := 4) rfl))
  have h2 : s.store? 2 = some ⟨⟨.ofList [("b:c:k", "1"), ("k", "2")], .empty⟩, "b::c:"⟩ := by decide
  have h4 : s.store? 4 = some ⟨⟨.ofList [("b:c:k", "1"), ("k", "2")], .empty⟩, "b:c:"⟩ := by decide
  obtain ⟨hinert, hunspoilt⟩ := names_decide calls
  exact ⟨hinert 0 "b:" 1 ["c"] 2 _ hbad (by decide) (by decide) hbelow h2,
    hunspoilt 0 ["", "b:c"] 4 _ hroot hgood (by decide) h4⟩

end Session

end BlockConfig
