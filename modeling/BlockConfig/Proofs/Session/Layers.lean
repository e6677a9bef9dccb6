/-
BlockConfig.Proofs.Session.Layers — configurations laid one over another.

Defaults, then what a site says, then what a user says: to lay the second
over the first and the result over a base is to lay the first and then the
second over the base. `merge_layers` says so of the merges of a session,
with any scopes and with locks in the base. The two ways write different
entries at different times, but they are refused for the same keys, and
what they leave is one and the same storage. To lay a configuration over a
base a second time does nothing.

Two facts about one merge carry this. Whether it is accepted is a matter of
the keys that the source shows and of the locks and the scope of the base,
none of which a merge into the base changes (`Store.Accepts`). And what an
accepted one leaves is told by look-ups (`Storage.Overlaid`), where the
grouping is that of `Option.or`.

The base is to have a storage of its own. When a storage is merged into a
block of itself, the source shows more than it did before, and merging it
once more writes that one block further down.
-/
import BlockConfig.Proofs.Session.Merge
import BlockConfig.Proofs.Session.Sharing

namespace BlockConfig

/-! ## 1. What a merge asks for -/

namespace Store

/-- Everything that a source shows may be written here. -/
def Accepts (s given : Store) : Prop :=
  ∀ key ∈ given.keys, Key.Valid (s.scope ++ key) ∧ s.storage.isLocked (s.scope ++ key) = false

theorem accepts_iff {s given : Store} :
    s.Accepts given ↔ ∃ next, s.storage.setAll (s.incoming given) = .ok next := by
  have hkeys : s.Accepts given ↔ ∀ p ∈ s.incoming given,
      Key.Valid p.1 ∧ s.storage.isLocked p.1 = false := by
    simp only [Accepts, incoming, keys, Table.keys, qualify, List.forall_mem_map]
  simp only [hkeys, Storage.setAll_eq_ok_iff, exists_and_left, exists_eq, and_true]

/-- A source that shows the keys of two others is accepted when both are. -/
theorem accepts_of_keys {s given further joined : Store}
    (hkeys : ∀ key, key ∈ joined.keys ↔ key ∈ further.keys ∨ key ∈ given.keys) :
    s.Accepts joined ↔ s.Accepts given ∧ s.Accepts further := by
  simp only [Accepts, hkeys]
  constructor
  · exact fun h => ⟨fun key hkey => h key (.inr hkey), fun key hkey => h key (.inl hkey)⟩
  · rintro ⟨hgiven, hfurther⟩ key (hkey | hkey)
    · exact hfurther key hkey
    · exact hgiven key hkey

/-- A store that was merged into asks for what it asked for before. -/
theorem accepts_congr {s given : Store} {next : Storage} (hlocks : next.locks = s.storage.locks) :
    (⟨next, s.scope⟩ : Store).Accepts given ↔ s.Accepts given := by
  simp only [Accepts, Storage.isLocked_congr hlocks]

end Store

namespace Session

variable {s : Session} {a b c : Nat}

theorem answer_merge_eq_done_iff {store given : Store} (hs : s.store? a = some store)
    (hg : s.store? b = some given) :
    (s.step (.merge a b)).answer = .done ↔ store.Accepts given := by
  rw [Store.accepts_iff]
  cases hall : store.storage.setAll (store.incoming given) with
  | ok next => simp [(step_merge_of_ok hs hg hall).2]
  | error e => simp [(step_merge_of_error hs hg hall).2]

/-- What an accepted merge leaves. -/
theorem step_merge_of_accepts {store given : Store} (hs : s.store? a = some store)
    (hg : s.store? b = some given) (h : store.Accepts given) :
    ∃ next, store.storage.Overlaid next store.scope given.entries
      ∧ (s.step (.merge a b)).session = s.putBack a next := by
  obtain ⟨next, hall⟩ := Store.accepts_iff.1 h
  exact ⟨next, Store.overlaid_setAll hall, (step_merge_of_ok hs hg hall).1⟩

/-- A handle that does not share the storage looks at what it looked at. -/
theorem store?_putBack_of_not_shares {store other : Store} (hs : s.store? a = some store)
    (ho : s.store? b = some other) (hshares : s.shares a b = false) (next : Storage) :
    (s.putBack a next).store? b = some other := by
  obtain ⟨i, ha, -⟩ := store?_eq_some_iff.1 hs
  obtain ⟨j, hb, -⟩ := store?_eq_some_iff.1 ho
  have hne : i ≠ j := by
    intro heq
    rw [(shares_eq_true_iff ha hb).2 heq] at hshares
    cases hshares
  rw [store?_putBack_of_ne ha hb hne, ho]

theorem shares_comm (s : Session) (a b : Nat) : s.shares a b = s.shares b a := by
  unfold shares
  cases s.handle? a <;> cases s.handle? b <;> simp [eq_comm]

/-! ## 2. Two merges -/

variable {first second base : Store}

/-- One source after the other is merged into a base that shares with
neither. The second merge is given what was shown at the start. -/
theorem run_merges_in_turn (ha : s.store? a = some first) (hb : s.store? b = some second)
    (hc : s.store? c = some base) (hbc : s.shares b c = false) :
    let run := s.run [.merge c a, .merge c b]
    (run.2 = [.done, .done] ↔ base.Accepts first ∧ base.Accepts second)
    ∧ (base.Accepts first → base.Accepts second → ∃ mid next,
        base.storage.Overlaid mid base.scope first.entries
        ∧ mid.Overlaid next base.scope second.entries
        ∧ (s.step (.merge c a)).session = s.putBack c mid
        ∧ run.1 = s.putBack c next) := by
  intro run
  have hrun : run.2 = [(s.step (.merge c a)).answer,
      ((s.step (.merge c a)).session.step (.merge c b)).answer] := rfl
  by_cases hfirst : base.Accepts first
  · obtain ⟨mid, hmid, hsession⟩ := step_merge_of_accepts hc ha hfirst
    have hc' : (s.putBack c mid).store? c = some ⟨mid, base.scope⟩ := store?_putBack hc mid
    have hb' : (s.putBack c mid).store? b = some second :=
      store?_putBack_of_not_shares hc hb (s.shares_comm c b ▸ hbc) mid
    have hsame : (⟨mid, base.scope⟩ : Store).Accepts second ↔ base.Accepts second :=
      Store.accepts_congr hmid.locks
    refine ⟨?_, fun _ hsecond => ?_⟩
    · rw [hrun, hsession, (answer_merge_eq_done_iff hc ha).2 hfirst]
      simp [answer_merge_eq_done_iff hc' hb', hsame, hfirst]
    · obtain ⟨next, hnext, hlast⟩ := step_merge_of_accepts hc' hb' (hsame.2 hsecond)
      refine ⟨mid, next, hmid, hnext, hsession, ?_⟩
      show ((s.step (.merge c a)).session.step (.merge c b)).session = _
      rw [hsession, hlast, putBack_putBack hc]
  · have hnot : (s.step (.merge c a)).answer ≠ .done := mt (answer_merge_eq_done_iff hc ha).1 hfirst
    exact ⟨by simp [hrun, hnot, hfirst], fun h => absurd h hfirst⟩

/-- A source is merged into another one, and that into a base. -/
theorem run_merges_grouped (ha : s.store? a = some first) (hb : s.store? b = some second)
    (hc : s.store? c = some base) (hac : s.shares a c = false) (hmerge : first.Accepts second) :
    let run := s.run [.merge a b, .merge c a]
    (run.2 = [.done, .done] ↔ base.Accepts first ∧ base.Accepts second)
    ∧ (base.Accepts first → base.Accepts second → ∃ next joined,
        (∀ key, joined.get? key = (second.entries.get? key).or (first.entries.get? key))
        ∧ base.storage.Overlaid next base.scope joined
        ∧ run.1.store? c = some ⟨next, base.scope⟩) := by
  intro run
  have hrun : run.2 = [(s.step (.merge a b)).answer,
      ((s.step (.merge a b)).session.step (.merge c a)).answer] := rfl
  obtain ⟨mid, hmid, hsession⟩ := step_merge_of_accepts ha hb hmerge
  have ha' : (s.putBack a mid).store? a = some ⟨mid, first.scope⟩ := store?_putBack ha mid
  have hc' : (s.putBack a mid).store? c = some base := store?_putBack_of_not_shares ha hc hac mid
  have hboth : base.Accepts ⟨mid, first.scope⟩ ↔ base.Accepts first ∧ base.Accepts second :=
    Store.accepts_of_keys (Store.mem_keys_of_overlaid hmid)
  refine ⟨?_, fun hfirst hsecond => ?_⟩
  · rw [hrun, hsession, (answer_merge_eq_done_iff ha hb).2 hmerge]
    simp [answer_merge_eq_done_iff hc' ha', hboth]
  · obtain ⟨next, hnext, hlast⟩ := step_merge_of_accepts hc' ha' (hboth.2 ⟨hfirst, hsecond⟩)
    refine ⟨next, _, Store.get?_entries_of_overlaid hmid, hnext, ?_⟩
    show ((s.step (.merge a b)).session.step (.merge c a)).session.store? c = _
    rw [hsession, hlast]
    exact store?_putBack hc' next

/-! ## 3. Layers -/

/-- The base with one source laid over it, and another over that. The locks
are those of the base, and so is what lies outside its scope. -/
structure Layered (base first second : Store) (next : Storage) : Prop where
  locks : next.locks = base.storage.locks
  shown : ∀ key, (⟨next, base.scope⟩ : Store).entries.get? key
    = (second.entries.get? key).or ((first.entries.get? key).or (base.entries.get? key))
  outside : ∀ key, Key.within? base.scope key = none →
    next.entries.get? key = base.storage.entries.get? key

theorem layered_of_overlaid {mid next : Storage}
    (hmid : base.storage.Overlaid mid base.scope first.entries)
    (hnext : mid.Overlaid next base.scope second.entries) : Layered base first second next where
  locks := hnext.locks.trans hmid.locks
  shown key := by
    rw [Store.get?_entries_of_overlaid (s := ⟨mid, base.scope⟩) hnext,
      Store.get?_entries_of_overlaid hmid]
  outside key hkey := by
    rw [hnext.entries, hmid.entries, hkey]
    rfl

/-- If `a` takes in `b`, then merging `a` into `c` after that is accepted
exactly when merging `a` and then `b` into `c` is, and leaves the same of
`c`. Merging `a` into `c` once more does nothing. -/
theorem merge_layers (s : Session) :
    (∀ (a b c : Nat) (first second base : Store), s.store? a = some first →
      s.store? b = some second → s.store? c = some base →
      s.shares a c = false → s.shares b c = false →
      (s.step (.merge a b)).answer = .done →
        let inTurn := s.run [.merge c a, .merge c b]
        let grouped := s.run [.merge a b, .merge c a]
        (inTurn.2 = [.done, .done] ↔ grouped.2 = [.done, .done])
        ∧ (inTurn.2 = [.done, .done] → ∃ next,
            inTurn.1.store? c = some ⟨next, base.scope⟩
            ∧ grouped.1.store? c = some ⟨next, base.scope⟩
            ∧ Layered base first second next))
    ∧ ∀ (a c : Nat) (first base : Store), s.store? a = some first → s.store? c = some base →
        s.shares a c = false →
        let once := s.step (.merge c a)
        once.answer = .done →
          (once.session.step (.merge c a)).answer = .done
          ∧ (once.session.step (.merge c a)).session = once.session := by
  refine ⟨?_, ?_⟩
  · intro a b c first second base ha hb hc hac hbc hmerge inTurn grouped
    obtain ⟨hturn, hleft⟩ := run_merges_in_turn ha hb hc hbc
    obtain ⟨hgroup, hright⟩ :=
      run_merges_grouped ha hb hc hac ((answer_merge_eq_done_iff ha hb).1 hmerge)
    refine ⟨hturn.trans hgroup.symm, fun hdone => ?_⟩
    obtain ⟨hfirst, hsecond⟩ := hturn.1 hdone
    obtain ⟨mid, next, hmid, hnext, -, hsession⟩ := hleft hfirst hsecond
    obtain ⟨last, joined, hjoined, hlast, hstore⟩ := hright hfirst hsecond
    obtain rfl : last = next := (hmid.trans hnext hjoined).unique hlast
    refine ⟨last, ?_, hstore, layered_of_overlaid hmid hnext⟩
    rw [show inTurn.1 = s.putBack c last from hsession]
    exact store?_putBack hc last
  · intro a c first base ha hc hac once honce
    have hfirst := (answer_merge_eq_done_iff hc ha).1 honce
    obtain ⟨hturn, hleft⟩ := run_merges_in_turn ha ha hc hac
    obtain ⟨mid, next, hmid, hnext, hsession, hlast⟩ := hleft hfirst hfirst
    -- What is written the second time is there already.
    have hagain : base.storage.Overlaid next base.scope first.entries :=
      hmid.trans hnext fun key => by cases first.entries.get? key <;> rfl
    obtain rfl : next = mid := hmid.unique hagain
    refine ⟨?_, hlast.trans hsession.symm⟩
    have hboth := hturn.2 ⟨hfirst, hfirst⟩
    exact (List.cons.inj (List.cons.inj hboth).2).1

/-- What a user says over what a site says over defaults, each in a block of
its own kind; the defaults lock a key that neither of the others has. -/
theorem layers_of_defaults :
    let s := (Session.run {} [.createFrom [("site:p", "1"), ("site:q", "1"), ("r", "1")],
      .view 0 "site", .createFrom [("q", "2"), ("r:t", "2")],
      .createFrom [("d:p", "0"), ("d:u", "0"), ("q", "0")], .view 3 "d", .edit 4 (.lock "z")]).1
    let inTurn := s.run [.merge 4 1, .merge 4 2]
    let grouped := s.run [.merge 1 2, .merge 4 1]
    grouped.2 = [.done, .done]
      ∧ (∃ next, inTurn.1.store? 4 = some ⟨next, "d:"⟩ ∧ grouped.1.store? 4 = some ⟨next, "d:"⟩
          ∧ next.entries.get? "q" = some "0"
          ∧ (⟨next, "d:"⟩ : Store).entries.get? "q" = some "2"
          ∧ (⟨next, "d:"⟩ : Store).entries.get? "u" = some "0")
      ∧ ((s.step (.merge 4 1)).session.step (.merge 4 1)).session
          = (s.step (.merge 4 1)).session := by
  intro s inTurn grouped
  let first : Store :=
    ⟨⟨.ofList [("site:p", "1"), ("site:q", "1"), ("r", "1")], .empty⟩, "site:"⟩
  let second : Store := ⟨⟨.ofList [("q", "2"), ("r:t", "2")], .empty⟩, ""⟩
  let base : Store :=
    ⟨⟨.ofList [("d:p", "0"), ("d:u", "0"), ("q", "0")], .ofList [("d:z", ())]⟩, "d:"⟩
  have ha : s.store? 1 = some first := by decide
  have hb : s.store? 2 = some second := by decide
  have hc : s.store? 4 = some base := by decide
  have hinTurn : inTurn.2 = [.done, .done] := by decide
  obtain ⟨hlayers, honce⟩ := merge_layers s
  obtain ⟨hiff, hleft⟩ :=
    hlayers 1 2 4 first second base ha hb hc (by decide) (by decide) (by decide)
  obtain ⟨next, hnext, hsame, hlayered⟩ := hleft hinTurn
  refine ⟨hiff.1 hinTurn, ⟨next, hnext, hsame, ?_, ?_, ?_⟩, ?_⟩
  · exact (hlayered.outside "q" (by decide)).trans (by decide)
  · exact (hlayered.shown "q").trans (by decide)
  · exact (hlayered.shown "u").trans (by decide)
  · exact (honce 1 4 first base ha hc (by decide) (by decide)).2

end Session

end BlockConfig
