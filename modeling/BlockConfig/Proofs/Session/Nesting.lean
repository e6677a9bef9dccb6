/-
BlockConfig.Proofs.Session.Nesting — a block of a block, in one step or in
two.

A block of a block has a name of its own (`Key.nest`), and going there by
that name is the same as going there by the two names, for any texts
whatever, keys or not. For views, the two ways lead to handles that no
later call can tell apart (`SameView`). For copies there are three ways:
copy twice, copy a block of a view, and copy once by the nested name. All
three hold the same entries and the same locks, and those are what the
origin has below the scope.

So a chain of views, however long, comes to one view of its root. Its name
is the non-empty names joined, and that is what the handle gives as its
block.

That scopes of nested names follow one another carries all of this
(`Key.scopeOf_nest`, `Store.view_view`): both ways end at the same `Handle`,
a storage with a scope, and a call has nothing else to go by
(`step_renumber`).
-/
import BlockConfig.Proofs.Session.Chains
import BlockConfig.Proofs.Session.Client
import BlockConfig.Proofs.Session.KeysValid
import BlockConfig.Proofs.Store.Mirror

namespace BlockConfig

/-! ## 1. Copies of copies -/

/-- A copy of a block of a copy is a copy of the nested block. -/
theorem Store.subblock_subblock (s : Store) (outer inner : String) :
    (s.subblock outer).subblock inner = s.subblock (Key.nest outer inner) := by
  have hscope : ((s.subblock outer).view inner).scope = Key.scopeOf inner := String.empty_append
  have hnested : (s.view (Key.nest outer inner)).scope
      = (s.view outer).scope ++ Key.scopeOf inner := by
    rw [← Store.view_view]
    rfl
  have hunder : ∀ {α : Type} (t : Table α),
      (t.under (s.view outer).scope).under ((s.subblock outer).view inner).scope
        = t.under (s.view (Key.nest outer inner)).scope := by
    intro α t
    rw [hscope, hnested, Table.under_under]
  rw [Store.subblock, Store.subblock]
  simp only [Store.entries, Store.locks]
  exact congrArg₂ (fun entries locks => Store.mk ⟨entries, locks⟩ "")
    (hunder s.storage.entries) (hunder s.storage.locks)

/-- A copy of a block of a view is a copy of the nested block. -/
theorem Store.subblock_view (s : Store) (outer inner : String) :
    (s.view outer).subblock inner = s.subblock (Key.nest outer inner) := by
  rw [Store.subblock, Store.view_view, ← Store.subblock]

namespace Session

/-! ## 2. Handles that cannot be told apart -/

/-- The one handle for the other. -/
def inPlaceOf (h k n : Nat) : Nat := if n = k then h else n

/-- Two handles onto the same part of one storage. Whatever is called later,
the one may be used in place of the other, as long as both are there. -/
structure SameView (s : Session) (h k : Nat) : Prop where
  shares : s.shares h k = true
  block : (s.step (.ask h .block)).answer = (s.step (.ask k .block)).answer
  calls : ∀ calls : List Call, (∀ call ∈ calls, call ≠ .release h ∧ call ≠ .release k) →
    s.run (calls.map (·.renumber (inPlaceOf h k))) = s.run calls
      ∧ s.trail (calls.map (·.renumber (inPlaceOf h k))) = s.trail calls

variable {s : Session}

/-- A call goes by what a handle is, not by its number, unless it releases
it. -/
theorem step_renumber {f : Nat → Nat} (hf : ∀ n, s.handle? (f n) = s.handle? n) {call : Call}
    (hr : ∀ g, call = .release g → f g = g) : s.step (call.renumber f) = s.step call := by
  have hstore : ∀ n, s.store? (f n) = s.store? n := fun n => by simp only [store?, hf]
  have hediting : ∀ n change, s.editing (f n) change = s.editing n change := fun n change => by
    simp only [editing, putBack, hstore, hf]
  cases call with
  | create | createFrom => rfl
  | subblock | snapshot => simp only [Call.renumber, step, copy, hstore]
  | view => simp only [Call.renumber, step, view, hf]
  | edit => simp only [Call.renumber, step, hediting]
  | merge => simp only [Call.renumber, step, hstore, hediting]
  | ask | showsSame => simp only [Call.renumber, step, asking, hstore]
  | shares => simp only [Call.renumber, step, Session.shares, hf]
  | release g => rw [Call.renumber, hr g rfl]

theorem sameView_of_handle? {h k : Nat} {a : Handle} (hh : s.handle? h = some a)
    (hk : s.handle? k = some a) : s.SameView h k := by
  refine ⟨(shares_eq_true_iff hh hk).2 rfl, ?_, fun calls hcalls => ?_⟩
  · simp only [step, asking, store?, hh, hk]
  · induction calls generalizing s with
    | nil => exact ⟨rfl, rfl⟩
    | cons call rest ih =>
      obtain ⟨hcall, hrest⟩ := List.forall_mem_cons.1 hcalls
      have hsame : ∀ n, s.handle? (inPlaceOf h k n) = s.handle? n := by
        intro n
        unfold inPlaceOf
        split
        · next heq => rw [heq, hh, hk]
        · rfl
      have hstep : s.step (call.renumber (inPlaceOf h k)) = s.step call := by
        refine step_renumber hsame fun g hg => if_neg ?_
        rintro rfl
        exact hcall.2 hg
      -- Both handles are still there, since neither was released.
      have he := s.step_effect call
      obtain ⟨hrun, htrail⟩ := ih (he.handle? hh hcall.1) (he.handle? hk hcall.2) hrest
      simp only [List.map_cons, run, trail, hstep, hrun, htrail, and_self]

/-! ## 3. One step of a run -/

theorem run_view {h : Nat} {a : Handle} (hh : s.handle? h = some a) (name : String)
    (rest : List Call) :
    s.run (.view h name :: rest)
      = (((s.attach (a.view name)).run rest).1,
          .handle s.nextHandle :: ((s.attach (a.view name)).run rest).2) := by
  simp only [run, step, view_of_handle? hh]

theorem run_subblock {h : Nat} {store : Store} (hs : s.store? h = some store) (name : String)
    (rest : List Call) :
    s.run (.subblock h name :: rest)
      = (((s.adopt (store.subblock name)).run rest).1,
          .handle s.nextHandle :: ((s.adopt (store.subblock name)).run rest).2) := by
  simp only [run, step, copy_of_store? hs]

/-! ## 4. Two steps for one -/

/-- A view of a block in a block, in two steps and in one. -/
def viewCalls (s : Session) (h : Nat) (outer inner : String) : List Call :=
  [.view h outer, .view s.nextHandle inner, .view h (Key.nest outer inner)]

/-- A copy of a block in a block: of a copy, of a view, and in one step. -/
def copyCalls (s : Session) (h : Nat) (outer inner : String) : List Call :=
  [.subblock h outer, .subblock s.nextHandle inner, .view h outer,
    .subblock (s.nextHandle + 2) inner, .subblock h (Key.nest outer inner)]

theorem run_viewCalls {h : Nat} {a : Handle} (hh : s.handle? h = some a) (outer inner : String) :
    (s.run (s.viewCalls h outer inner)).2
        = [.handle s.nextHandle, .handle (s.nextHandle + 1), .handle (s.nextHandle + 2)]
      ∧ (s.run (s.viewCalls h outer inner)).1.SameView (s.nextHandle + 1) (s.nextHandle + 2) := by
  have h₁ := handle?_attach_of_some hh (a.view outer)
  have h₂ := handle?_attach_of_some h₁ ((a.view outer).view inner)
  rw [viewCalls, run_view hh, run_view (handle?_attach_nextHandle ..), run_view h₂,
    ← Handle.view_view]
  refine ⟨by simp [run], sameView_of_handle? (a := (a.view outer).view inner) ?_ ?_⟩
  · refine handle?_attach_of_some ?_ _
    rw [handle?_attach, nextHandle_attach, if_pos rfl]
  · rw [run, handle?_attach, nextHandle_attach, nextHandle_attach, if_pos rfl]

theorem run_copyCalls {h : Nat} {store : Store} (hs : s.store? h = some store)
    (outer inner : String) :
    let t := s.run (s.copyCalls h outer inner)
    let copy := store.subblock (Key.nest outer inner)
    t.2 = [.handle s.nextHandle, .handle (s.nextHandle + 1), .handle (s.nextHandle + 2),
        .handle (s.nextHandle + 3), .handle (s.nextHandle + 4)]
      ∧ t.1.store? (s.nextHandle + 1) = some copy ∧ t.1.store? (s.nextHandle + 3) = some copy
      ∧ t.1.store? (s.nextHandle + 4) = some copy := by
  intro t copy
  obtain ⟨i, hh, -⟩ := store?_eq_some_iff.1 hs
  -- The sessions on the way, and the handles that are used again in them.
  let s₁ := s.adopt (store.subblock outer)
  let s₂ := s₁.adopt copy
  let s₃ := s₂.attach (Handle.view ⟨i, store.scope⟩ outer)
  let s₄ := s₃.adopt copy
  have hn₁ : s₁.nextHandle = s.nextHandle + 1 := nextHandle_adopt ..
  have hn₂ : s₂.nextHandle = s.nextHandle + 2 := (nextHandle_adopt ..).trans (by rw [hn₁])
  have hn₃ : s₃.nextHandle = s.nextHandle + 3 := (nextHandle_attach ..).trans (by rw [hn₂])
  have hn₄ : s₄.nextHandle = s.nextHandle + 4 := (nextHandle_adopt ..).trans (by rw [hn₃])
  have hh₂ : s₂.handle? h = some ⟨i, store.scope⟩ :=
    handle?_adopt_of_some (handle?_adopt_of_some hh _) _
  have hs₂ : s₂.store? h = some store := store?_adopt_of_some (store?_adopt_of_some hs _) _
  have hs₄ : s₄.store? h = some store := store?_adopt_of_some (store?_attach_of_some hs₂ _) _
  have hcopy : s₁.store? s.nextHandle = some (store.subblock outer) := s.store?_adopt _
  have hview : s₃.store? (s.nextHandle + 2) = some (store.view outer) :=
    hn₂ ▸ store?_attach_view hh₂ hs₂ outer
  have hlast : t.1 = s₄.adopt copy ∧ t.2 = [.handle s.nextHandle, .handle s₁.nextHandle,
      .handle s₂.nextHandle, .handle s₃.nextHandle, .handle s₄.nextHandle] := by
    simp only [t, copyCalls]
    rw [run_subblock hs, run_subblock hcopy, Store.subblock_subblock, run_view hh₂,
      run_subblock hview, Store.subblock_view, run_subblock hs₄]
    exact ⟨rfl, rfl⟩
  rw [hlast.1, hlast.2, hn₁, hn₂, hn₃, hn₄]
  have htwice : s₂.store? (s.nextHandle + 1) = some copy := hn₁ ▸ s₁.store?_adopt copy
  have hviewed : s₄.store? (s.nextHandle + 3) = some copy := hn₃ ▸ s₃.store?_adopt copy
  refine ⟨rfl, ?_, store?_adopt_of_some hviewed copy, hn₄ ▸ s₄.store?_adopt copy⟩
  exact store?_adopt_of_some (store?_adopt_of_some (store?_attach_of_some htwice _) _) _

/-! ## 5. The view at the end of a chain -/

/-- At the end of a chain from a root is the view of the root by the joined
name. -/
theorem Gave.handle?_of_chain {past : List (Call × Answer)} {given : List Handle}
    (hg : s.Gave past given) {root n : Nat} {names : List String}
    (hchain : ViewChain past root names n) {a b : Handle} (hroot : s.handle? root = some a)
    (hn : s.handle? n = some b) : b = a.view (Key.pathOf names) := by
  have hlast := hg.getElem?_of_chain hchain (hg.alive root a hroot)
  rw [hg.alive n b hn] at hlast
  exact Option.some.inj hlast

/-- After any calls: going into a block of a block by two names or by the
nested one comes to the same, for views and for copies. Nesting is
associative, and the empty name is its unit. And a chain of views from a
root comes to one view of the root, by the non-empty names joined. -/
theorem derivations_compose (calls : List Call) :
    let s := (Session.run {} calls).1
    let past := history {} calls
    let n := s.nextHandle
    (∀ h store, s.store? h = some store → ∀ outer inner,
      ((s.run (s.viewCalls h outer inner)).2 = [.handle n, .handle (n + 1), .handle (n + 2)]
        ∧ (s.run (s.viewCalls h outer inner)).1.SameView (n + 1) (n + 2))
      ∧ (s.run (s.copyCalls h outer inner)).2
          = [.handle n, .handle (n + 1), .handle (n + 2), .handle (n + 3), .handle (n + 4)]
        ∧ ∃ copy : Storage,
            copy.Mirrors "" (store.scope ++ Key.scopeOf (Key.nest outer inner)) store.storage
            ∧ ∀ k ∈ [n + 1, n + 3, n + 4],
                (s.run (s.copyCalls h outer inner)).1.store? k = some ⟨copy, ""⟩)
    ∧ (∀ a b c, Key.nest (Key.nest a b) c = Key.nest a (Key.nest b c))
    ∧ (∀ a, Key.nest "" a = a ∧ Key.nest a "" = a)
    ∧ ∀ root names v store, Founded past root → ViewChain past root names v →
        s.store? v = some store →
        ∃ block, (s.step (.ask v .block)).answer = .block block
          ∧ (block = none ↔ ∀ name ∈ names, name = "")
          ∧ (∀ name, block = some name → name = Key.ofSegments (names.filter (· ≠ "")))
          ∧ ((s.store? root).isSome →
              (s.run [.view root (block.getD "")]).2 = [.handle n]
              ∧ (s.run [.view root (block.getD "")]).1.SameView v n) := by
  intro s past n
  have hw : s.WellFormed := wellFormed_of_reachable ⟨calls, rfl⟩
  obtain ⟨given, hgave⟩ := gave_of_run calls
  refine ⟨fun h store hs outer inner => ⟨?_, ?_⟩, Key.nest_assoc,
    fun a => ⟨Key.nest_empty_left a, Key.nest_empty_right a⟩, ?_⟩
  · obtain ⟨i, hh, -⟩ := store?_eq_some_iff.1 hs
    exact run_viewCalls hh outer inner
  · obtain ⟨hmade, htwice, hviewed, honce⟩ := run_copyCalls hs outer inner
    refine ⟨hmade, _, hw.mirrors_subblock hs _, fun k hk => ?_⟩
    simp only [List.mem_cons, List.not_mem_nil, or_false] at hk
    rcases hk with rfl | rfl | rfl
    · exact htwice
    · exact hviewed
    · exact honce
  · intro root names v store hroot hchain hs
    obtain ⟨i, hv, -⟩ := store?_eq_some_iff.1 hs
    have hscope : store.scope = Key.scopeOf (Key.pathOf names) :=
      hgave.scope_of_chain hroot hchain hv
    have hblock : store.block?
        = if Key.pathOf names = "" then none else some (Key.pathOf names) := by
      rw [Store.block?, hscope, Key.blockOf?_scopeOf]
    have hname : store.block?.getD "" = Key.pathOf names := by
      rw [hblock]
      split <;> simp [*]
    refine ⟨store.block?, answer_ask hs .block, ?_, ?_, fun halive => ?_⟩
    · rw [hblock, ← Key.pathOf_eq_empty_iff]
      simp
    · intro name hsome
      rw [hsome] at hname
      exact hname
    · obtain ⟨origin, horigin⟩ := Option.isSome_iff_exists.1 halive
      obtain ⟨j, ha, -⟩ := store?_eq_some_iff.1 horigin
      rw [hname, run_view ha, ← hgave.handle?_of_chain hchain ha hv]
      exact ⟨rfl, sameView_of_handle? (handle?_attach_of_some hv _) (handle?_attach_nextHandle ..)⟩

/-- The malformed block `b:` of the block `a`, where `a` has a lock on a key
without a value, and a chain to it with empty names in between. -/
theorem derivations_of_malformed_block :
    let calls : List Call := [.createFrom [("a:b:k", "1"), ("a:k", "2")], .edit 0 (.lock "a:z"),
      .view 0 "", .view 1 "a", .view 2 "", .view 3 "b:"]
    let s := (Session.run {} calls).1
    (s.run (s.viewCalls 2 "" "b:")).1.SameView 6 7
      ∧ (s.run (s.copyCalls 0 "" "a")).2 = [.handle 5, .handle 6, .handle 7, .handle 8, .handle 9]
      ∧ (∃ copy : Storage, copy.Mirrors "" "a:" ⟨.ofList [("a:b:k", "1"), ("a:k", "2")],
            .ofList [("a:z", ())]⟩
          ∧ ∀ k ∈ [6, 8, 9], (s.run (s.copyCalls 0 "" "a")).1.store? k = some ⟨copy, ""⟩)
      ∧ (s.run [.view 0 "a:b:"]).1.SameView 4 5 := by
  intro calls s
  have hroot : Founded (history {} calls) 0 :=
    ⟨.createFrom [("a:b:k", "1"), ("a:k", "2")], trivial, List.mem_of_getElem? (i := 0) rfl⟩
  have hchain : ViewChain (history {} calls) 0 ["", "a", "", "b:"] 4 :=
    .cons (List.mem_of_getElem? (i := 2) rfl) (.cons (List.mem_of_getElem? (i := 3) rfl)
      (.cons (List.mem_of_getElem? (i := 4) rfl) (.single (List.mem_of_getElem? (i := 5) rfl))))
  let storage : Storage := ⟨.ofList [("a:b:k", "1"), ("a:k", "2")], .ofList [("a:z", ())]⟩
  have h0 : s.store? 0 = some ⟨storage, ""⟩ := by decide
  have h2 : s.store? 2 = some ⟨storage, "a:"⟩ := by decide
  have h4 : s.store? 4 = some ⟨storage, "a:b::"⟩ := by decide
  obtain ⟨hsteps, -, -, hends⟩ := derivations_compose calls
  obtain ⟨⟨-, hviews⟩, -⟩ := hsteps 2 _ h2 "" "b:"
  obtain ⟨-, hcopies⟩ := hsteps 0 _ h0 "" "a"
  obtain ⟨block, hblock, -, -, hview⟩ := hends 0 _ 4 _ hroot hchain h4
  have hask : (s.step (.ask 4 .block)).answer = .block (some "a:b:") := by decide
  obtain rfl : some "a:b:" = block := Answer.block.inj (hask.symm.trans hblock)
  exact ⟨hviews, hcopies.1, hcopies.2, (hview (by rw [h0]; rfl)).2⟩

end Session

end BlockConfig
