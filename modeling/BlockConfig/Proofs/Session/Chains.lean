/-
BlockConfig.Proofs.Session.Chains — views of views, and the names on the
way.

A handle is a root, which looks at the whole of a storage of its own, or it
was made from another one as a view. So every handle is at the end of a
chain of views that begins at a root, and the names along the chain can be
read off the history of calls (`ViewChain`). Handles in between may have
been released since.

The names say which part of the storage the handle looks at: the scope of
the names one inside the other (`scope_of_chain`). What carries this is
`Gave`, the list of all handles that were given out, under the numbers they
were given. Calls only add to the list, so a handle is found in it as it
was when it was made, whether it is still there or not.
-/
import BlockConfig.Proofs.Key.Names
import BlockConfig.Proofs.Session.Sharing

namespace BlockConfig

/-! ## 1. Chains in a history -/

/-- The handle `n` was made onto the whole of a storage of its own. -/
def Founded (past : List (Call × Answer)) (n : Nat) : Prop :=
  ∃ call : Call, call.Founds ∧ (call, Answer.handle n) ∈ past

/-- The last handle was made from the first by views of these names, each a
view of what the one before looks at. -/
inductive ViewChain (past : List (Call × Answer)) : Nat → List String → Nat → Prop
  | nil (h : Nat) : ViewChain past h [] h
  | cons {h m n : Nat} {name : String} {names : List String}
      (hview : (Call.view h name, Answer.handle m) ∈ past) (hrest : ViewChain past m names n) :
      ViewChain past h (name :: names) n

theorem Founded.append {past : List (Call × Answer)} {n : Nat} (h : Founded past n)
    (more : List (Call × Answer)) : Founded (past ++ more) n := by
  obtain ⟨call, hc, hm⟩ := h
  exact ⟨call, hc, List.mem_append_left _ hm⟩

namespace ViewChain

variable {past : List (Call × Answer)} {h m n : Nat} {names names' : List String}

theorem single {name : String} (hview : (Call.view h name, Answer.handle m) ∈ past) :
    ViewChain past h [name] m :=
  .cons hview (.nil m)

/-- Chains are put together where they meet. -/
theorem trans (hc : ViewChain past h names m) (hc' : ViewChain past m names' n) :
    ViewChain past h (names ++ names') n := by
  induction hc with
  | nil h => exact hc'
  | cons hview _ ih => exact .cons hview (ih hc')

/-- What happens later does not undo a chain. -/
theorem append (hc : ViewChain past h names n) (more : List (Call × Answer)) :
    ViewChain (past ++ more) h names n := by
  induction hc with
  | nil h => exact .nil h
  | cons hview _ ih => exact .cons (List.mem_append_left _ hview) ih

end ViewChain

/-- Views of views are views: their scopes follow one another. -/
theorem Handle.view_view (a : Handle) (outer inner : String) :
    (a.view outer).view inner = a.view (Key.nest outer inner) := by
  simp only [Handle.view, Key.scopeOf_nest, String.append_assoc]

/-! ## 2. The handles that were given out -/

namespace Session

/-- A new store looks at the whole of its storage. -/
theorem Offers.scope_eq {s : Session} {store : Store} (ho : s.Offers store) : store.scope = "" := by
  cases ho with
  | built pairs h =>
    exact (Store.setEach_induction (P := fun _ => True) (fun _ _ _ _ => trivial) h trivial).2
  | copied name hs => rfl

/-- The handles that were given out so far, by their numbers, released or
not. -/
structure Gave (s : Session) (past : List (Call × Answer)) (given : List Handle) : Prop where
  length : given.length = s.nextHandle
  alive : ∀ n a, s.handle? n = some a → given[n]? = some a
  founded : ∀ (call : Call) n, call.Founds → (call, Answer.handle n) ∈ past →
    ∃ i, given[n]? = some ⟨i, ""⟩
  viewed : ∀ h name n, (Call.view h name, Answer.handle n) ∈ past →
    ∃ a, given[h]? = some a ∧ given[n]? = some (a.view name)
  /-- Each of them is at the end of a chain from a root. -/
  rooted : ∀ n < given.length, ∃ root names, Founded past root ∧ ViewChain past root names n

namespace Gave

variable {s t : Session} {past : List (Call × Answer)} {given : List Handle}

theorem empty : Gave {} [] [] where
  length := rfl
  alive n a hn := by cases hn
  founded call n _ hm := absurd hm List.not_mem_nil
  viewed h name n hm := absurd hm List.not_mem_nil
  rooted n hn := absurd hn (Nat.not_lt_zero n)

/-- No handle was given out. -/
theorem kept (hs : s.Gave past given) (hnext : t.nextHandle = s.nextHandle)
    (halive : ∀ n a, t.handle? n = some a → s.handle? n = some a) {call : Call} {answer : Answer}
    (ha : ∀ n, answer ≠ .handle n) : t.Gave (past ++ [(call, answer)]) given := by
  -- The new record names no handle, so it is none of those in question.
  have hold : ∀ (c : Call) n, (c, Answer.handle n) ∈ past ++ [(call, answer)] →
      (c, Answer.handle n) ∈ past := by
    intro c n hm
    rcases List.mem_append.1 hm with hm | hm
    · exact hm
    · have heq := congrArg Prod.snd (List.mem_singleton.1 hm)
      exact absurd heq.symm (ha n)
  refine ⟨hs.length.trans hnext.symm, fun n a hn => hs.alive n a (halive n a hn),
    fun c n hc hm => hs.founded c n hc (hold c n hm),
    fun h name n hm => hs.viewed h name n (hold _ n hm), fun n hn => ?_⟩
  obtain ⟨root, names, hroot, hchain⟩ := hs.rooted n hn
  exact ⟨root, names, hroot.append _, hchain.append _⟩

/-- One handle was given out, by a call that begins a storage or by a view
of one that was given out before. -/
theorem grown (hs : s.Gave past given) {a : Handle} (hnext : t.nextHandle = s.nextHandle + 1)
    (hhandle : ∀ n, t.handle? n = if n = s.nextHandle then some a else s.handle? n) {call : Call}
    (hmade : (call.Founds ∧ a.scope = "")
      ∨ ∃ h b name, call = .view h name ∧ given[h]? = some b ∧ a = b.view name) :
    t.Gave (past ++ [(call, .handle s.nextHandle)]) (given ++ [a]) := by
  have hlast : (given ++ [a])[s.nextHandle]? = some a := by
    rw [← hs.length]
    exact List.getElem?_concat_length
  have hfront : ∀ {n : Nat} {b : Handle}, given[n]? = some b → (given ++ [a])[n]? = some b := by
    intro n b hn
    rw [List.getElem?_append_left (List.getElem?_eq_some_iff.1 hn).1, hn]
  constructor
  case length => simp [hs.length, hnext]
  case alive =>
    intro n b hn
    rw [hhandle] at hn
    split at hn
    · next heq => rw [heq, hlast, hn]
    · exact hfront (hs.alive n b hn)
  case founded =>
    intro c n hc hm
    rcases List.mem_append.1 hm with hm | hm
    · obtain ⟨i, hn⟩ := hs.founded c n hc hm
      exact ⟨i, hfront hn⟩
    · cases List.mem_singleton.1 hm
      rcases hmade with ⟨-, hscope⟩ | ⟨h, b, name, rfl, -, -⟩
      · exact ⟨a.storage, by rw [hlast, ← hscope]⟩
      · exact absurd hc id
  case viewed =>
    intro h name n hm
    rcases List.mem_append.1 hm with hm | hm
    · obtain ⟨b, hh, hn⟩ := hs.viewed h name n hm
      exact ⟨b, hfront hh, hfront hn⟩
    · cases List.mem_singleton.1 hm
      rcases hmade with ⟨hc, -⟩ | ⟨_, b, _, heq, hb, rfl⟩
      · exact absurd hc id
      · cases heq
        exact ⟨b, hfront hb, hlast⟩
  case rooted =>
    intro n hn
    have hrecord : (call, Answer.handle s.nextHandle) ∈ past ++ [(call, .handle s.nextHandle)] := by
      simp
    by_cases hnew : n < given.length
    · obtain ⟨root, names, hroot, hchain⟩ := hs.rooted n hnew
      exact ⟨root, names, hroot.append _, hchain.append _⟩
    · obtain rfl : n = s.nextHandle := by
        have hlength := hs.length
        simp at hn
        omega
      rcases hmade with ⟨hc, -⟩ | ⟨h, b, name, rfl, hb, -⟩
      · exact ⟨_, [], ⟨call, hc, hrecord⟩, .nil _⟩
      · obtain ⟨root, names, hroot, hchain⟩ := hs.rooted h (List.getElem?_eq_some_iff.1 hb).1
        exact ⟨root, names ++ [name], hroot.append _, (hchain.append _).trans (.single hrecord)⟩

/-- What one call gives out. -/
theorem effect (hs : s.Gave past given) {call : Call} {answer : Answer}
    (he : s.Effect call answer t) : ∃ given', t.Gave (past ++ [(call, answer)]) given' := by
  cases he with
  | stay ha => exact ⟨given, hs.kept rfl (fun _ _ hn => hn) ha⟩
  | @adopt _ store hc ho =>
    exact ⟨_, hs.grown (nextHandle_adopt ..) (s.handle?_adopt store) (.inl ⟨hc, ho.scope_eq⟩)⟩
  | @attach h handle name hh =>
    exact ⟨_, hs.grown (nextHandle_attach ..) (s.handle?_attach _)
      (.inr ⟨h, handle, name, rfl, hs.alive h handle hh, rfl⟩)⟩
  | @write _ _ h i _ _ next ha _ _ _ _ =>
    have hnext : nextHandle { s with storages := s.storages.set i next } = s.nextHandle := rfl
    exact ⟨given, hs.kept hnext (fun _ _ hn => hn) ha⟩
  | release g =>
    refine ⟨given, hs.kept (nextHandle_release ..) (fun n a hn => ?_) (fun n hn => by cases hn)⟩
    rw [handle?_release] at hn
    split at hn
    · cases hn
    · exact hn

theorem run (hs : s.Gave past given) (calls : List Call) :
    ∃ given', (s.run calls).1.Gave (past ++ s.history calls) given' := by
  induction calls generalizing s past given with
  | nil => exact ⟨given, by rwa [history_nil, List.append_nil]⟩
  | cons call rest ih =>
    obtain ⟨given', hs'⟩ := hs.effect (s.step_effect call)
    obtain ⟨given'', hlast⟩ := ih hs'
    rw [List.append_assoc] at hlast
    exact ⟨given'', hlast⟩

/-! ## 3. Where a chain leads -/

/-- Along a chain the storage stays, and the names are added to the scope. -/
theorem getElem?_of_chain (hs : s.Gave past given) {h n : Nat} {names : List String}
    (hc : ViewChain past h names n) {a : Handle} (hh : given[h]? = some a) :
    given[n]? = some (a.view (Key.pathOf names)) := by
  induction hc generalizing a with
  | nil h => simpa [Handle.view] using hh
  | @cons h m n name names hview _ ih =>
    obtain ⟨b, hb, hm⟩ := hs.viewed h name m hview
    obtain rfl := Option.some.inj (hh.symm.trans hb)
    rw [ih hm, Key.pathOf_cons, Handle.view_view]

/-- A chain from a root leads to the block that its names name. -/
theorem scope_of_chain (hs : s.Gave past given) {root n : Nat} {names : List String}
    (hroot : Founded past root) (hc : ViewChain past root names n) {a : Handle}
    (hn : s.handle? n = some a) : a.scope = Key.scopeOf (Key.pathOf names) := by
  obtain ⟨call, hcall, hm⟩ := hroot
  obtain ⟨i, hi⟩ := hs.founded call root hcall hm
  have hlast := hs.getElem?_of_chain hc hi
  rw [hs.alive n a hn] at hlast
  rw [Option.some.inj hlast]
  exact String.empty_append

end Gave

/-- After any calls there is such a list. -/
theorem gave_of_run (calls : List Call) :
    ∃ given, (Session.run {} calls).1.Gave (history {} calls) given :=
  Gave.empty.run calls

end Session

end BlockConfig
