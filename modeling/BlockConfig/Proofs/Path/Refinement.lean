/-
BlockConfig.Proofs.Path.Refinement — a session of scopes and texts is a
forest of paths.

A session represents a forest when its storages represent the trees, one
by one, and each handle carries the scope of the block of its place
(`Session.Represents`). One call keeps the two related and answers the
same in both (`Session.Represents.step`), so a run does
(`run_eq_forest_run`).

The one condition is on names: the name that a view or a copy is derived
under has to be empty or a key. Other names open scopes that are the scope
of no block. Keys and values are any texts, and handle numbers are any
numbers.

The induction is along the calls. Each kind of step is compared by what it
does to a handle in general — asking, editing, making a new storage,
making a new handle — and what the operations do is taken from
`BlockConfig.Proofs.Path.Represents`.
-/
import Mathlib.Data.List.Forall2
import BlockConfig.Proofs.Path.Represents

namespace BlockConfig

/-! ## 1. The relation -/

/-- The handle that a place is written as. -/
def Place.handle (place : Place) : Handle := ⟨place.tree, Block.scope place.block⟩

/-- Storages represent trees, and handles are written from places. -/
structure Session.Represents (s : Session) (f : Forest) : Prop where
  storages : List.Forall₂ Storage.Represents s.storages f.trees
  handles : s.handles = f.places.map (Option.map Place.handle)

/-- The outcomes of one call: the same answer, and related states. -/
def Step.Represents (step : Step) (next : Forest × Answer) : Prop :=
  step.answer = next.2 ∧ step.session.Represents next.1

/-- A call that derives a view or a copy does so under a name that is
empty or a key. -/
def Call.WellNamed : Call → Prop
  | .subblock _ name | .view _ name => name = "" ∨ Key.Valid name
  | _ => True

instance : DecidablePred Call.WellNamed
  | .subblock _ name | .view _ name => inferInstanceAs (Decidable (name = "" ∨ Key.Valid name))
  | .create | .createFrom _ | .snapshot _ | .edit .. | .merge .. | .ask .. | .showsSame ..
  | .shares .. | .release _ => .isTrue trivial

theorem forall₂_getElem? {α β : Type} {r : α → β → Prop} {l : List α} {m : List β}
    (h : List.Forall₂ r l m) (i : Nat) : Option.Rel r l[i]? m[i]? := by
  induction h generalizing i with
  | nil => exact .none
  | cons hr _ ih =>
    cases i with
    | zero => exact .some hr
    | succ i => exact ih i

theorem forall₂_set {α β : Type} {r : α → β → Prop} {l : List α} {m : List β} {a : α} {b : β}
    (h : List.Forall₂ r l m) (hab : r a b) (i : Nat) :
    List.Forall₂ r (l.set i a) (m.set i b) := by
  induction h generalizing i with
  | nil => exact .nil
  | cons hr hrest ih =>
    cases i with
    | zero => exact .cons hab hrest
    | succ i => exact .cons hr (ih i)

namespace Session

theorem represents_empty : Represents {} {} := ⟨.nil, rfl⟩

namespace Represents

variable {s : Session} {f : Forest}

/-! ## 2. Handles and places -/

theorem handle?_eq (h : s.Represents f) (n : Nat) :
    s.handle? n = (f.place? n).map Place.handle := by
  unfold handle? Forest.place?
  rw [h.handles, List.getElem?_map]
  cases f.places[n]? with
  | none => rfl
  | some o => cases o <;> rfl

/-- What a handle looks at represents what its place stands for, and a
handle that is not there has no place. -/
theorem store?_rel (h : s.Represents f) (n : Nat) :
    Option.Rel (fun store seen => store.Represents seen.1 seen.2) (s.store? n) (f.find? n) := by
  unfold store? Forest.find?
  rw [h.handle?_eq]
  cases f.place? n with
  | none => exact .none
  | some place =>
    have hi := forall₂_getElem? h.storages place.tree
    show Option.Rel _ ((s.storages[place.tree]?).map fun storage =>
      Store.mk storage (Block.scope place.block)) ((f.trees[place.tree]?).map fun t =>
      (t, place.block))
    generalize s.storages[place.tree]? = x at hi ⊢
    generalize f.trees[place.tree]? = y at hi ⊢
    cases hi with
    | none => exact .none
    | some hr => exact .some ⟨rfl, hr⟩

theorem next_eq (h : s.Represents f) : s.nextHandle = f.places.length := by
  rw [nextHandle, h.handles, List.length_map]

/-! ## 3. Kinds of steps -/

theorem adopt (h : s.Represents f) {store : Store} {t : Tree} (hs : store.Represents t []) :
    (s.adopt store).Represents (f.plant t) := by
  constructor
  · exact List.rel_append h.storages (.cons hs.storage .nil)
  · show s.handles ++ [some ⟨s.storages.length, store.scope⟩] = _
    show _ = (f.places ++ [some (Place.mk f.trees.length [])]).map (Option.map Place.handle)
    rw [h.handles, h.storages.length_eq, hs.scope, List.map_append]
    rfl

theorem attach (h : s.Represents f) (place : Place) :
    (s.attach place.handle).Represents { f with places := f.places ++ [some place] } := by
  refine ⟨h.storages, ?_⟩
  show s.handles ++ [some place.handle] = (f.places ++ [some place]).map _
  rw [h.handles, List.map_append]
  rfl

theorem putBack (h : s.Represents f) (n : Nat) {storage : Storage} {t : Tree}
    (hs : storage.Represents t) : (s.putBack n storage).Represents (f.putBack n t) := by
  unfold Session.putBack Forest.putBack
  rw [h.handle?_eq]
  cases f.place? n with
  | none => exact h
  | some place => exact ⟨forall₂_set h.storages hs place.tree, h.handles⟩

theorem asking (h : s.Represents f) (n : Nat) {ask : Store → Answer} {reply : Tree → Block → Answer}
    (hask : ∀ store t b, Store.Represents store t b → ask store = reply t b) :
    (s.asking n ask).Represents (f.asking n reply) := by
  have hn := h.store?_rel n
  unfold Session.asking Forest.asking
  generalize s.store? n = x at hn ⊢
  generalize f.find? n = y at hn ⊢
  cases hn with
  | none => exact ⟨rfl, h⟩
  | some hr => exact ⟨hask _ _ _ hr, h⟩

theorem editing (h : s.Represents f) (n : Nat)
    {change : Store → Traced ConfigError (Answer × Store)}
    {move : Tree → Block → Except ConfigError (Answer × Tree)}
    (hchange : ∀ store t b, Store.Represents store t b →
      Agree (fun p q => p.1 = q.1 ∧ p.2.Represents q.2 b) (change store).result (move t b)) :
    (s.editing n change).Represents (f.editing n move) := by
  have hn := h.store?_rel n
  unfold Forest.editing
  generalize hstore : s.store? n = x at hn
  generalize f.find? n = y at hn ⊢
  cases hn with
  | none =>
    rw [editing_of_none hstore]
    exact ⟨rfl, h⟩
  | @some store seen hr =>
    have hc := hchange store seen.1 seen.2 hr
    generalize hresult : (change store).result = result at hc
    simp only
    generalize move seen.1 seen.2 = outcome at hc ⊢
    cases hc with
    | error e =>
      rw [editing_of_error hstore hresult]
      exact ⟨rfl, h⟩
    | ok hok =>
      rw [editing_of_ok hstore hresult]
      exact ⟨hok.1, h.putBack n hok.2.storage⟩

theorem copy (h : s.Represents f) (n : Nat) {name : String}
    (hname : name = "" ∨ Key.Valid name) :
    (s.copy n name).Represents (f.copy n name) := by
  obtain ⟨c, hc⟩ := Block.ofName?_isSome hname
  have hn := h.store?_rel n
  unfold Session.copy Forest.copy
  rw [hc]
  generalize s.store? n = x at hn ⊢
  generalize f.find? n = y at hn ⊢
  cases hn with
  | none => exact ⟨rfl, h⟩
  | some hr => exact ⟨congrArg Answer.handle h.next_eq, h.adopt (hr.subblock hc)⟩

theorem view (h : s.Represents f) (n : Nat) {name : String}
    (hname : name = "" ∨ Key.Valid name) :
    (s.view n name).Represents (f.view n name) := by
  obtain ⟨c, hc⟩ := Block.ofName?_isSome hname
  unfold Session.view Forest.view
  rw [hc, h.handle?_eq]
  cases f.place? n with
  | none => exact ⟨rfl, h⟩
  | some place =>
    have hview : place.handle.view name = Place.handle ⟨place.tree, place.block ++ c⟩ := by
      unfold Handle.view Place.handle
      rw [Block.scope_of_ofName? hc, Block.scope_append]
    refine ⟨congrArg Answer.handle h.next_eq, ?_⟩
    show (s.attach (place.handle.view name)).Represents _
    rw [hview]
    exact h.attach _

theorem shares_eq (h : s.Represents f) (n other : Nat) :
    s.shares n other = f.shares n other := by
  unfold Session.shares Forest.shares
  rw [h.handle?_eq, h.handle?_eq]
  cases f.place? n with
  | none => rfl
  | some a => cases f.place? other <;> rfl

theorem release (h : s.Represents f) (n : Nat) :
    (s.release n).Represents { f with places := f.places.set n none } := by
  refine ⟨h.storages, ?_⟩
  show s.handles.set n none = (f.places.set n none).map _
  rw [h.handles, List.map_set]
  rfl

/-! ## 4. Steps and runs -/

theorem createFrom (h : s.Represents f) (pairs : List (String × String)) :
    (s.step (.createFrom pairs)).Represents (f.step (.createFrom pairs)) := by
  have hempty : Store.Represents {} {} [] := ⟨rfl, Storage.represents_empty⟩
  have hbuilt := hempty.setEach pairs
  unfold Session.step Forest.step Store.ofEntries Store.empty
  simp only
  generalize Store.setEach {} pairs = traced at hbuilt ⊢
  generalize Tree.setEach {} pairs = outcome at hbuilt ⊢
  obtain ⟨events, result⟩ := traced
  replace hbuilt : Agree _ result outcome := hbuilt
  cases hbuilt with
  | error e => exact ⟨rfl, h⟩
  | ok hs => exact ⟨congrArg Answer.handle h.next_eq, h.adopt hs⟩

theorem merge (h : s.Represents f) (n source : Nat) :
    (s.step (.merge n source)).Represents (f.step (.merge n source)) := by
  have hsource := h.store?_rel source
  unfold Session.step Forest.step
  simp only
  generalize s.store? source = x at hsource ⊢
  generalize f.find? source = y at hsource ⊢
  cases hsource with
  | none => exact ⟨rfl, h⟩
  | some hg =>
    refine h.editing n fun store t b hs => ?_
    exact (hs.merge hg).map fun _ _ hr => ⟨rfl, hr⟩

theorem showsSame (h : s.Represents f) (n other : Nat) :
    (s.step (.showsSame n other)).Represents (f.step (.showsSame n other)) := by
  have hother := h.store?_rel other
  unfold Session.step Forest.step
  simp only
  generalize s.store? other = x at hother ⊢
  generalize f.find? other = y at hother ⊢
  cases hother with
  | none => exact ⟨rfl, h⟩
  | some hg => exact h.asking n fun store t b hs => congrArg Answer.flag (hs.showsSame_eq hg)

/-- One call, whichever it is. -/
theorem step (h : s.Represents f) {call : Call} (hname : call.WellNamed) :
    (s.step call).Represents (f.step call) := by
  cases call with
  | create =>
    exact ⟨congrArg Answer.handle h.next_eq, h.adopt ⟨rfl, Storage.represents_empty⟩⟩
  | createFrom pairs => exact h.createFrom pairs
  | subblock n name => exact h.copy n hname
  | snapshot n => exact h.copy n (.inl rfl)
  | view n name => exact h.view n hname
  | edit n e => exact h.editing n fun store t b hs => hs.edit e
  | merge n source => exact h.merge n source
  | ask n q => exact h.asking n fun store t b hs => hs.answer_eq q
  | showsSame n other => exact h.showsSame n other
  | shares n other => exact ⟨congrArg Answer.flag (h.shares_eq n other), h⟩
  | release n => exact ⟨rfl, h.release n⟩

theorem run (h : s.Represents f) {calls : List Call} (hnames : ∀ call ∈ calls, call.WellNamed) :
    (s.run calls).2 = (f.run calls).2 ∧ (s.run calls).1.Represents (f.run calls).1 := by
  induction calls generalizing s f with
  | nil => exact ⟨rfl, h⟩
  | cons call rest ih =>
    rw [List.forall_mem_cons] at hnames
    obtain ⟨hanswer, hnext⟩ := h.step hnames.1
    obtain ⟨hanswers, hlast⟩ := ih hnext hnames.2
    exact ⟨congrArg₂ List.cons hanswer hanswers, hlast⟩

end Represents

/-- A run of a session is the run of a forest: every call has the same
answer in both, and after any calls the session represents the forest. -/
theorem run_eq_forest_run (calls : List Call) (hnames : ∀ call ∈ calls, call.WellNamed) :
    (Session.run {} calls).2 = (Forest.run {} calls).2
      ∧ (Session.run {} calls).1.Represents (Forest.run {} calls).1 :=
  represents_empty.run hnames

/-- Neighbouring names, the order of the texts, malformed keys, a lock that
stops a merge of a root into its own block, and a copy that takes the lock
along. -/
theorem forest_of_neighbouring_blocks :
    let calls : List Call :=
      [.createFrom [("b:k", "1"), ("bb:k", "2"), ("a:z", "3"), ("a!:z", "4")], .view 0 "b",
        .ask 1 .entries, .ask 0 .keys, .edit 1 (.set "" "5"), .edit 1 (.lock "a:z"),
        .merge 1 0, .subblock 0 "b", .ask 2 (.isReadOnly "a:z"), .merge 0 2, .ask 0 .keys]
    (∀ call ∈ calls, call.WellNamed)
      ∧ (Forest.run {} calls).2
        = [.handle 0, .handle 1, .entries [("k", "1")],
          .keys ["a!:z", "a:z", "b:k", "bb:k"], .failed (.invalidKey "b:" .emptySegment), .done,
          .failed (.readOnly "b:a:z" .set), .handle 2, .flag true, .done,
          .keys ["a!:z", "a:z", "b:k", "bb:k", "k"]] := by
  intro calls
  have hnames : ∀ call ∈ calls, call.WellNamed := by decide
  refine ⟨hnames, ?_⟩
  rw [← (run_eq_forest_run calls hnames).1]
  decide

end Session

end BlockConfig
