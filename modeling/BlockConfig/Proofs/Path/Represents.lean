/-
BlockConfig.Proofs.Path.Represents — storages of texts that stand for
trees of paths.

A table represents a partial function on paths when it has, at the text of
each path, what the function has at the path, and nothing at texts that
are no paths (`Table.Represents`). A storage represents a tree when its
entries represent the values and its locks the marks, and a store
represents a tree seen from a block when its scope is the scope of that
block besides.

The operations are compared one by one, each under this relation alone.

* Reading: both give the same answer to every question
  (`Store.Represents.answer_eq`). The table is sorted and so is the
  listing, and sorted lists that agree on look-ups are equal.
* Changing: both are refused with the same error, or both are accepted,
  and then what they leave is related again (`Store.Represents.edit`,
  `Store.Represents.merge`).
* Copying: a copied block represents the copied tree
  (`Store.Represents.subblock`).
-/
import Mathlib.Logic.Function.Basic
import BlockConfig.Proofs.Path.Tree
import BlockConfig.Proofs.Session.Moves
import BlockConfig.Proofs.Store.Writes

namespace BlockConfig

/-! ## 1. Listings -/

namespace PathMap

theorem mem_listing {m : PathMap} {key value : String} :
    (key, value) ∈ m.listing ↔ ∃ p, m.lookup p = some value ∧ p.text = key := by
  unfold listing
  rw [List.mem_filterMap]
  constructor
  · rintro ⟨p, -, hp⟩
    obtain ⟨v, hv, heq⟩ := Option.map_eq_some_iff.1 hp
    rw [Prod.mk.injEq] at heq
    exact ⟨p, heq.2 ▸ hv, heq.1⟩
  · rintro ⟨p, hv, rfl⟩
    refine ⟨p, ?_, by rw [hv, Option.map_some]⟩
    rw [Finset.mem_sort, Finmap.mem_keys]
    exact Finmap.mem_of_lookup_eq_some hv

theorem listing_sorted (m : PathMap) : Pairs.Sorted m.listing := by
  refine (Finset.sortedLT_sort m.keys).pairwise.filterMap _ ?_
  intro p q hpq x hx y hy
  obtain ⟨v, -, rfl⟩ := Option.map_eq_some_iff.1 hx
  obtain ⟨w, -, rfl⟩ := Option.map_eq_some_iff.1 hy
  exact Path.text_lt_text.2 hpq

/-- A text is looked up in the listing as its path is in the map. -/
theorem lookup_listing (m : PathMap) (key : String) :
    Pairs.lookup key m.listing = (Path.ofText? key).bind m.lookup := by
  refine Option.ext fun value => ?_
  rw [Pairs.lookup_eq_some_iff m.listing_sorted.nodup_keys, mem_listing, Option.bind_eq_some_iff]
  constructor
  · rintro ⟨p, hv, htext⟩
    exact ⟨p, Path.ofText?_eq_some_iff.2 htext, hv⟩
  · rintro ⟨p, hp, hv⟩
    exact ⟨p, hv, Path.ofText?_eq_some_iff.1 hp⟩

theorem keys_listing (m : PathMap) : m.listing.map Prod.fst = m.keys.sort.map Path.text := by
  unfold listing
  rw [List.map_filterMap, ← List.filterMap_eq_map]
  refine List.filterMap_congr fun p hp => ?_
  rw [Finset.mem_sort, Finmap.mem_keys] at hp
  obtain ⟨v, hv⟩ := Finmap.mem_iff.1 hp
  simp [hv]

theorem length_listing (m : PathMap) : m.listing.length = m.keys.card := by
  have h := congrArg List.length m.keys_listing
  simpa using h

end PathMap

/-! ## 2. Tables -/

namespace Table

variable {α : Type} {t u : Table α} {f g : Path → Option α}

/-- At the text of a path there is what the function has at the path, and
at other texts there is nothing. -/
def Represents (t : Table α) (f : Path → Option α) : Prop :=
  ∀ key, t.get? key = (Path.ofText? key).bind f

namespace Represents

theorem get?_text (h : t.Represents f) (p : Path) : t.get? p.text = f p := by
  rw [h, Path.ofText?_text, Option.bind_some]

theorem get?_scope_append (h : t.Represents f) (b : Block) (key : String) :
    t.get? (Block.scope b ++ key) = (Path.ofText? key).bind fun p => f (p.under b) := by
  rw [h, Path.ofText?_scope_append, Option.bind_map]
  rfl

/-- A table that differs at the text of one path only. -/
theorem update (h : t.Represents f) {p : Path} {o : Option α}
    (hu : ∀ key, u.get? key = if key = p.text then o else t.get? key) :
    u.Represents (Function.update f p o) := by
  intro key
  rw [hu, h]
  by_cases hkey : key = p.text
  · rw [if_pos hkey, hkey, Path.ofText?_text, Option.bind_some, Function.update_self]
  · rw [if_neg hkey]
    refine Option.bind_congr fun q hq => ?_
    have hne : q ≠ p := by
      rintro rfl
      exact hkey (Path.ofText?_eq_some_iff.1 hq).symm
    rw [Function.update_of_ne hne]

theorem insert (h : t.Represents f) (p : Path) (value : α) :
    (t.insert p.text value).Represents (Function.update f p (some value)) :=
  h.update fun key => t.get?_insert p.text key value

theorem erase (h : t.Represents f) (p : Path) :
    (t.erase p.text).Represents (Function.update f p none) :=
  h.update fun key => t.get?_erase p.text key

/-- The part below a scope represents the part below the block. -/
theorem under (h : t.Represents f) (b : Block) :
    (t.under (Block.scope b)).Represents fun p => f (p.under b) := by
  intro key
  rw [get?_under, h.get?_scope_append]
  by_cases hkey : key = ""
  · rw [if_pos hkey, hkey, Path.ofText?_empty, Option.bind_none]
  · rw [if_neg hkey]

/-- One table written below a block of another, in front of what was
there. -/
theorem overlay {w : Table α} (h : t.Represents f) (hu : u.Represents g) {b : Block}
    (hw : ∀ key, w.get? key
      = ((Key.within? (Block.scope b) key).bind u.get?).or (t.get? key)) :
    w.Represents fun p => ((p.below? b).bind g).or (f p) := by
  intro key
  rw [hw, h]
  cases hk : Path.ofText? key with
  | some p =>
    obtain rfl := Path.ofText?_eq_some_iff.1 hk
    rw [Path.within?_text, Option.bind_map, Option.bind_some, Option.bind_some]
    refine congrArg (Option.or · (f p)) (Option.bind_congr fun q _ => ?_)
    exact hu.get?_text q
  | none =>
    rw [Option.bind_none, Option.bind_none, Option.or_none, Option.bind_eq_none_iff]
    intro rest hrest
    -- What is no path has no path below the block either.
    rw [(Key.within?_eq_some_iff.1 hrest).1, Path.ofText?_scope_append,
      Option.map_eq_none_iff] at hk
    rw [hu, hk, Option.bind_none]

theorem eq (h : t.Represents f) (h' : u.Represents f) : t = u :=
  ext_get? fun key => (h key).trans (h' key).symm

/-- What is listed is the listing of the map. -/
theorem toList_eq {t : Table String} {m : PathMap} (h : t.Represents m.lookup) :
    t.toList = m.listing :=
  Pairs.eq_of_lookup_eq t.sorted m.listing_sorted fun key =>
    (h key).trans (m.lookup_listing key).symm

theorem eq_iff {t u : Table String} {m n : PathMap} (h : t.Represents m.lookup)
    (h' : u.Represents n.lookup) : t = u ↔ m = n := by
  constructor
  · rintro rfl
    refine Finmap.ext_lookup fun p => ?_
    exact (h.get?_text p).symm.trans (h'.get?_text p)
  · rintro rfl
    exact h.eq h'

end Represents

end Table

/-! ## 3. Storages -/

/-- Two outcomes of one change: the same error, or related values. -/
inductive Agree {ε α β : Type} (r : α → β → Prop) : Except ε α → Except ε β → Prop
  | error (e : ε) : Agree r (.error e) (.error e)
  | ok {a : α} {b : β} (h : r a b) : Agree r (.ok a) (.ok b)

theorem Agree.map {ε α β γ δ : Type} {r : α → β → Prop} {q : γ → δ → Prop} {f : α → γ}
    {g : β → δ} (hq : ∀ a b, r a b → q (f a) (g b)) {x : Except ε α} {y : Except ε β}
    (h : Agree r x y) : Agree q (x.map f) (y.map g) := by
  cases h with
  | error e => exact .error e
  | ok h => exact .ok (hq _ _ h)

theorem Agree.map_left {ε α β γ : Type} {r : α → β → Prop} {q : γ → β → Prop} {f : α → γ}
    (hq : ∀ a b, r a b → q (f a) b) {x : Except ε α} {y : Except ε β} (h : Agree r x y) :
    Agree q (x.map f) y := by
  cases h with
  | error e => exact .error e
  | ok h => exact .ok (hq _ _ h)

/-- A text that is no path is refused below every block, for the same
reason. -/
theorem check_scope_append_of_none {b : Block} {key : String} (hk : Path.ofText? key = none) :
    Key.check (Block.scope b ++ key) = .error (Tree.malformed b key) := by
  have hv : ¬ Key.Valid (Block.scope b ++ key) := by
    rw [← Path.ofText?_eq_none_iff, Path.ofText?_scope_append, hk, Option.map_none]
  rw [Key.check, Key.fault?_of_not_valid hv, Tree.malformed]
  simp only [String.append_eq_empty_iff, Block.scope_eq_empty_iff]

namespace Storage

/-- The entries represent the values, and the locks the marks. -/
structure Represents (s : Storage) (t : Tree) : Prop where
  entries : s.entries.Represents t.entries.lookup
  locks : s.locks.Represents fun p => if p ∈ t.locks then some () else none

/-- What a change gives back beside what it leaves. -/
def RepresentsWith {α : Type} (p : α × Storage) (q : α × Tree) : Prop :=
  p.1 = q.1 ∧ p.2.Represents q.2

theorem represents_empty : Represents {} {} := by
  constructor
  · intro key
    cases Path.ofText? key <;> rfl
  · intro key
    cases Path.ofText? key <;> rfl

namespace Represents

variable {s : Storage} {t : Tree}

theorem get?_eq (h : s.Represents t) (b : Block) (key : String) :
    s.entries.get? (Block.scope b ++ key) = t.get? b key :=
  h.entries.get?_scope_append b key

theorem isLocked_eq (h : s.Represents t) (b : Block) (key : String) :
    s.isLocked (Block.scope b ++ key) = t.isLocked b key := by
  rw [isLocked, Table.contains_eq, h.locks.get?_scope_append, Tree.isLocked]
  cases Path.ofText? key with
  | none => rfl
  | some p => by_cases hp : p.under b ∈ t.locks <;> simp [hp]

theorem isLocked_text (h : s.Represents t) (p : Path) :
    s.isLocked p.text = decide (p ∈ t.locks) := by
  rw [isLocked, Table.contains_eq, h.locks.get?_text]
  by_cases hp : p ∈ t.locks <;> simp [hp]

theorem set (h : s.Represents t) (b : Block) (key value : String) :
    Agree Represents (s.set (Block.scope b ++ key) value) (t.set b key value) := by
  unfold Storage.set Tree.set
  cases hk : Path.ofText? key with
  | none =>
    rw [checkSet, check_scope_append_of_none hk]
    exact .error _
  | some p =>
    obtain rfl := Path.ofText?_eq_some_iff.1 hk
    rw [← Path.text_under, checkSet_of_valid (Path.valid_text _), h.isLocked_text]
    by_cases hl : p.under b ∈ t.locks
    · simp only [hl, decide_true, if_true]
      exact .error _
    · simp only [hl, decide_false, Bool.false_eq_true, if_false]
      refine .ok ⟨?_, h.locks⟩
      rw [PathMap.lookup_insert]
      exact h.entries.insert (p.under b) value

theorem unset (h : s.Represents t) (b : Block) (key : String) :
    Agree RepresentsWith (s.unset (Block.scope b ++ key)) (t.unset b key) := by
  unfold Storage.unset Tree.unset
  cases hk : Path.ofText? key with
  | none =>
    have hl : s.isLocked (Block.scope b ++ key) = false := by
      rw [h.isLocked_eq, Tree.isLocked, hk]
      rfl
    have hv : s.entries.get? (Block.scope b ++ key) = none := by
      rw [h.get?_eq, Tree.get?, hk]
      rfl
    simp only [hl, hv, Bool.false_eq_true, if_false]
    exact .error _
  | some p =>
    obtain rfl := Path.ofText?_eq_some_iff.1 hk
    rw [← Path.text_under, h.isLocked_text, h.entries.get?_text]
    by_cases hl : p.under b ∈ t.locks
    · simp only [hl, decide_true, if_true]
      exact .error _
    · simp only [hl, decide_false, Bool.false_eq_true, if_false]
      cases hv : t.entries.lookup (p.under b) with
      | none => exact .error _
      | some value =>
        refine .ok ⟨rfl, ?_, h.locks⟩
        rw [PathMap.lookup_erase]
        exact h.entries.erase (p.under b)

theorem lock (h : s.Represents t) (b : Block) (key : String) :
    Agree Represents (s.lock (Block.scope b ++ key)) (t.lock b key) := by
  unfold Storage.lock Tree.lock
  cases hk : Path.ofText? key with
  | none =>
    rw [check_scope_append_of_none hk]
    exact .error _
  | some p =>
    obtain rfl := Path.ofText?_eq_some_iff.1 hk
    rw [← Path.text_under, Key.check_eq_ok_iff.2 (Path.valid_text _)]
    refine .ok ⟨h.entries, ?_⟩
    have hmarks : (fun q => if q ∈ insert (p.under b) t.locks then some () else none)
        = Function.update (fun q => if q ∈ t.locks then some () else none) (p.under b)
          (some ()) := by
      funext q
      by_cases hq : q = p.under b
      · simp [hq]
      · simp [hq, Finset.mem_insert]
    show Table.Represents _ (fun q => if q ∈ insert (p.under b) t.locks then some () else none)
    rw [hmarks]
    exact h.locks.insert (p.under b) ()

theorem edit (h : s.Represents t) (b : Block) (e : Edit) :
    Agree RepresentsWith (s.edit (Block.scope b) e) (t.edit b e) := by
  cases e with
  | set key value => exact (h.set b key value).map fun _ _ hr => ⟨rfl, hr⟩
  | insert key value => exact (h.set b key value.render).map fun _ _ hr => ⟨rfl, hr⟩
  | unset key | remove key =>
    exact (h.unset b key).map fun _ _ hr => ⟨congrArg Answer.text hr.1, hr.2⟩
  | lock key => exact (h.lock b key).map fun _ _ hr => ⟨rfl, hr⟩

/-- A copy of the part below a scope. -/
theorem under (h : s.Represents t) (b : Block) :
    Represents ⟨s.entries.under (Block.scope b), s.locks.under (Block.scope b)⟩ (t.block b) := by
  constructor
  · intro key
    rw [h.entries.under b key]
    refine Option.bind_congr fun p _ => ?_
    exact (PathMap.lookup_below b t.entries p).symm
  · intro key
    rw [h.locks.under b key]
    refine Option.bind_congr fun p _ => ?_
    simp [Tree.block, Path.below?_eq_some_iff]

end Represents

end Storage

/-! ## 4. Stores -/

namespace Store

/-- A tree is represented as it is seen from a block. -/
structure Represents (s : Store) (t : Tree) (b : Block) : Prop where
  scope : s.scope = Block.scope b
  storage : s.storage.Represents t

namespace Represents

variable {s given : Store} {t u : Tree} {b c : Block}

theorem entries (h : s.Represents t b) : s.entries.Represents (t.shown b).lookup := by
  intro key
  rw [Store.entries, h.scope, h.storage.entries.under b key]
  refine Option.bind_congr fun p _ => ?_
  exact (PathMap.lookup_below b t.entries p).symm

theorem get?_eq (h : s.Represents t b) (key : String) :
    s.storage.entries.get? (s.qualify key) = t.get? b key := by
  rw [qualify, h.scope, h.storage.get?_eq]

theorem size_eq (h : s.Represents t b) : s.size = (t.shown b).keys.card := by
  rw [size, Table.size, h.entries.toList_eq, PathMap.length_listing]

theorem isReadOnly_eq (h : s.Represents t b) (key : String) :
    s.isReadOnly key = t.isLocked b key := by
  rw [isReadOnly, qualify, h.scope, h.storage.isLocked_eq]

/-- Every question has the same answer. -/
theorem answer_eq (h : s.Represents t b) (q : Query) : s.answer q = t.answer b q := by
  have hlist := h.entries.toList_eq
  cases q with
  | has key | contains key =>
    show Answer.flag (s.storage.entries.get? (s.qualify key)).isSome = .flag (t.get? b key).isSome
    rw [h.get?_eq]
  | get key =>
    simp only [answer, Tree.answer, get, h.get?_eq]
    cases t.get? b key with
    | none => simp only [qualify, h.scope]
    | some value => rfl
  | getD key default =>
    show Answer.text ((s.storage.entries.get? (s.qualify key)).getD default)
      = .text ((t.get? b key).getD default)
    rw [h.get?_eq]
  | isReadOnly key => exact congrArg Answer.flag (h.isReadOnly_eq key)
  | keys => exact congrArg (fun pairs => Answer.keys (pairs.map Prod.fst)) hlist
  | size | length => exact congrArg Answer.count h.size_eq
  | isEmpty => exact congrArg (fun n => Answer.flag (n == 0)) h.size_eq
  | entries => exact congrArg Answer.entries hlist
  | block =>
    show Answer.block (Key.blockOf? s.scope) = .block (if b = [] then none else some b.name)
    rw [h.scope, Block.blockOf?_scope]
  | json => exact congrArg (fun pairs => Answer.text (Json.compact pairs)) hlist
  | jsonPretty => exact congrArg (fun pairs => Answer.text (Json.pretty pairs)) hlist
  | inspect =>
    show Answer.text (Inspect.line s.scope s.entries.toList) = _
    rw [h.scope, hlist]
    rfl
  | inspectPretty =>
    show Answer.text (Inspect.lines s.scope s.entries.toList) = _
    rw [h.scope, hlist]
    rfl

theorem showsSame_eq (h : s.Represents t b) (hg : given.Represents u c) :
    s.showsSame given = decide (t.shown b = u.shown c) :=
  decide_eq_decide.2 (h.entries.eq_iff hg.entries)

theorem edit (h : s.Represents t b) (e : Edit) :
    Agree (fun p q => p.1 = q.1 ∧ p.2.Represents q.2 b) (s.edit e).result (t.edit b e) := by
  have he := h.storage.edit b e
  rw [← h.scope] at he
  rw [result_edit]
  exact he.map_left fun _ _ hr => ⟨hr.1, h.scope, hr.2⟩

/-- The targets of a merge, in the order in which they are checked. -/
theorem keys_incoming_eq (h : s.Represents t b) (hg : given.Represents u c) :
    (s.incoming given).map Prod.fst
      = (u.shown c).keys.sort.map fun p => (p.under b).text := by
  rw [keys_incoming, keys, Table.keys, hg.entries.toList_eq, PathMap.keys_listing, List.map_map]
  refine List.map_congr_left fun p _ => ?_
  show s.scope ++ p.text = (p.under b).text
  rw [h.scope, Path.text_under]

theorem merge (h : s.Represents t b) (hg : given.Represents u c) :
    Agree (fun next v => next.Represents v b) (s.merge given).result
      (t.merge b (u.shown c)) := by
  have hkeys := h.keys_incoming_eq hg
  have hvalid : ∀ key ∈ (s.incoming given).map Prod.fst, Key.Valid key := by
    rw [hkeys]
    exact List.forall_mem_map.2 fun p _ => (p.under b).valid_text
  have hfind : ((s.incoming given).map Prod.fst).find? s.storage.isLocked
      = ((u.shown c).keys.sort.find? fun p => p.under b ∈ t.locks).map
        fun p => (p.under b).text := by
    rw [hkeys, List.find?_map]
    congr 2
    funext p
    exact h.storage.isLocked_text (p.under b)
  have hset := Storage.setAll_of_valid (s := s.storage) hvalid
  rw [hfind] at hset
  rw [result_merge]
  unfold Tree.merge
  cases hlocked : (u.shown c).keys.sort.find? fun p => p.under b ∈ t.locks with
  | some p =>
    rw [hlocked] at hset
    rw [hset]
    exact .error _
  | none =>
    rw [hlocked] at hset
    have hover := (overlaid_setAll hset).entries
    rw [h.scope] at hover
    rw [hset]
    refine .ok ⟨h.scope, ?_, h.storage.locks⟩
    have hlookup : (PathMap.above b (u.shown c) ∪ t.entries).lookup
        = fun p => ((p.below? b).bind (u.shown c).lookup).or (t.entries.lookup p) := by
      funext p
      rw [PathMap.lookup_union, PathMap.lookup_above]
    show Table.Represents _ (PathMap.above b (u.shown c) ∪ t.entries).lookup
    rw [hlookup]
    exact h.storage.entries.overlay hg.entries hover

/-- A copied block represents the copied tree, seen from its root. -/
theorem subblock (h : s.Represents t b) {name : String} (hname : Block.ofName? name = some c) :
    (s.subblock name).Represents (t.block (b ++ c)) [] := by
  have hscope : (s.view name).scope = Block.scope (b ++ c) := by
    rw [view, h.scope, Block.scope_of_ofName? hname, Block.scope_append]
  refine ⟨rfl, ?_⟩
  have hunder := h.storage.under (b ++ c)
  rw [← hscope] at hunder
  exact hunder

theorem setEach (h : s.Represents t []) (pairs : List (String × String)) :
    Agree (fun next v => next.Represents v []) (s.setEach pairs).result (t.setEach pairs) := by
  induction pairs generalizing s t with
  | nil => exact .ok h
  | cons pair rest ih =>
    have hset : Agree (fun next v => next.Represents v []) (s.set pair.1 pair.2).result
        (t.set [] pair.1 pair.2) := by
      have hs := h.storage.set [] pair.1 pair.2
      rw [← h.scope] at hs
      rw [result_set]
      exact hs.map_left fun _ _ hr => ⟨h.scope, hr⟩
    rw [Store.setEach, Traced.bind_eq, Tree.setEach]
    generalize hx : (s.set pair.1 pair.2).result = x at hset
    generalize t.set [] pair.1 pair.2 = y at hset ⊢
    cases hset with
    | error e =>
      rw [Traced.andThen_of_error hx]
      exact .error e
    | ok hr =>
      rw [Traced.andThen_of_ok hx]
      exact ih hr

end Represents

end Store

end BlockConfig
